import CloudOps.Js.Value
import CloudOps.ServiceError
import Mathlib.Data.List.Forall2
import Mathlib.Data.List.TakeWhile

namespace CloudOps.Ticketing.Reports

open CloudOps.Js (mem_of_lookup objectPrototype)
open CloudOps.Js (Value property objectPrototype)

def METRIC_SQL : List (String × String) :=
  [("ticket_count", "count(DISTINCT t.id)"),
    ("avg_first_response_minutes",
      "avg(EXTRACT(epoch FROM t.first_response_at - t.created_at) / 60.0) "
        ++ "FILTER (WHERE t.first_response_at IS NOT NULL)"),
    ("avg_resolution_minutes",
      "avg(EXTRACT(epoch FROM t.resolved_at - t.created_at) / 60.0) "
        ++ "FILTER (WHERE t.resolved_at IS NOT NULL)"),
    ("sla_attainment_pct",
      "(count(*) FILTER (WHERE t.resolution_due_at IS NOT NULL "
        ++ "AND t.resolved_at IS NOT NULL AND t.resolved_at <= t.resolution_due_at)::float "
        ++ "/ NULLIF(count(*) FILTER (WHERE t.resolution_due_at IS NOT NULL), 0)::float) * 100"),
    ("avg_csat",
      "avg(CASE s.rating WHEN 'happy' THEN 1.0 WHEN 'neutral' THEN 0.5 "
        ++ "WHEN 'unhappy' THEN 0.0 ELSE NULL END) * 100")]

def FIELD_SQL : List (String × String) :=
  [("status", "t.status::text"),
    ("priority", "t.priority::text"),
    ("ticket_type_id", "t.ticket_type_id::text"),
    ("group_id", "t.group_id::text"),
    ("assignee_id", "t.agent_id::text"),
    ("source", "t.source::text"),
    ("day", "to_char(t.created_at, 'YYYY-MM-DD')"),
    ("week", "to_char(date_trunc('week', t.created_at), 'YYYY-MM-DD')"),
    ("month", "to_char(t.created_at, 'YYYY-MM')")]

def DATE_FIELD_SQL : List (String × String) :=
  [("created_at", "t.created_at"), ("resolved_at", "t.resolved_at")]

structure ReportFilter where
  field : String
  value : String

structure ReportDateRange where
  fromDate : String
  toDate : String

-- The tokens are whatever text the caller has put there.
structure ReportConfig where
  metric : String
  groupBy : String
  filters : Option (List ReportFilter)
  dateField : Option String
  dateRange : Option ReportDateRange

structure BuiltReportQuery where
  sql : String
  params : List String

-- The maps are object literals, so that a token can also be a property they inherit.
def lookup (map : List (String × String)) (token label : String) : Except ServiceError String :=
  match (map.lookup token).or (objectPrototype.lookup token) with
  | none | some "" => .error (.badRequest s!"Unknown {label} \"{token}\"")
  | some sql => .ok sql

-- The params and the conditions as they have been pushed so far.
structure Conditions where
  params : List String
  conditions : List String

def Conditions.push (built : Conditions) (sql operator value : String) : Conditions :=
  let params := built.params ++ [value]
  { params, conditions := built.conditions ++ [s!"{sql} {operator} ${params.length}"] }

def pushDateRange (dateFieldSql : String) (built : Conditions) : Option ReportDateRange → Conditions
  | none => built
  | some range => (built.push dateFieldSql ">=" range.fromDate).push dateFieldSql "<=" range.toDate

def pushFilter (built : Conditions) (filter : ReportFilter) : Except ServiceError Conditions := do
  let filterSql ← lookup FIELD_SQL filter.field "filter field"
  return built.push filterSql "=" filter.value

def whereClause (conditions : List String) : String :=
  if conditions = [] then "" else "WHERE " ++ " AND ".intercalate conditions

def joinClause (metric : String) : String :=
  if metric = "avg_csat" then "LEFT JOIN ticket_satisfaction_ratings s ON s.ticket_id = t.id" else ""

def reportSql (dimensionSql metricSql joinSql whereSql : String) : String :=
  s!"\n    SELECT {dimensionSql} AS bucket, {metricSql} AS value\n    FROM tickets t\n    {joinSql}\n    {whereSql}\n    GROUP BY bucket\n    ORDER BY bucket\n  "

def buildReportQuery (config : ReportConfig) : Except ServiceError BuiltReportQuery := do
  let metricSql ← lookup METRIC_SQL config.metric "metric"
  let dimensionSql ← lookup FIELD_SQL config.groupBy "groupBy dimension"
  let dateFieldSql ← lookup DATE_FIELD_SQL (config.dateField.getD "created_at") "dateField"
  let ranged := pushDateRange dateFieldSql { params := [], conditions := [] } config.dateRange
  let built ← (config.filters.getD []).foldlM pushFilter ranged
  return {
    sql := reportSql dimensionSql metricSql (joinClause config.metric) (whereClause built.conditions)
    params := built.params }

-- What a pushed condition says: that an expression compares in this way with the value.
structure Bound where
  sql : String
  operator : String
  value : String

-- The conditions for bounds whose values are pushed from this place of the params on.
def numbered : Nat → List Bound → List String
  | _, [] => []
  | place, bound :: rest => s!"{bound.sql} {bound.operator} ${place}" :: numbered (place + 1) rest

def Conditions.pushAll (built : Conditions) (bounds : List Bound) : Conditions :=
  bounds.foldl (fun built bound => built.push bound.sql bound.operator bound.value) built

-- A condition's number is the place of its own value in the params.
theorem pushAll_eq (bounds : List Bound) (built : Conditions) :
    built.pushAll bounds = { params := built.params ++ bounds.map Bound.value
                             conditions := built.conditions ++ numbered (built.params.length + 1) bounds } := by
  induction bounds generalizing built with
  | nil => simp [Conditions.pushAll, numbered]
  | cons bound rest ih =>
    have hstep : built.pushAll (bound :: rest)
        = (built.push bound.sql bound.operator bound.value).pushAll rest := rfl
    rw [hstep, ih]
    simp [Conditions.push, numbered]

theorem lookup_own {map : List (String × String)} {token sql : String} (label : String)
    (h : map.lookup token = some sql) (hne : sql ≠ "") : lookup map token label = .ok sql := by
  unfold lookup
  simp only [h]
  split <;> simp_all

-- The bounds a config asks for, with the expressions its tokens have in the tables.
def rangeBounds (config : ReportConfig) : List Bound :=
  let sql := (DATE_FIELD_SQL.lookup (config.dateField.getD "created_at")).getD ""
  match config.dateRange with
  | none => []
  | some range => [⟨sql, ">=", range.fromDate⟩, ⟨sql, "<=", range.toDate⟩]

def filterBound (filter : ReportFilter) : Bound :=
  ⟨(FIELD_SQL.lookup filter.field).getD "", "=", filter.value⟩

def bounds (config : ReportConfig) : List Bound :=
  rangeBounds config ++ (config.filters.getD []).map filterBound

-- Each token is an own key of its table.
structure OwnTokens (config : ReportConfig) : Prop where
  metric : (METRIC_SQL.lookup config.metric).isSome
  groupBy : (FIELD_SQL.lookup config.groupBy).isSome
  dateField : (DATE_FIELD_SQL.lookup (config.dateField.getD "created_at")).isSome
  filters : ∀ filter ∈ config.filters.getD [], (FIELD_SQL.lookup filter.field).isSome

theorem lookup_entry {map : List (String × String)} (hmap : ∀ entry ∈ map, entry.2 ≠ "") {token : String}
    (label : String) (h : (map.lookup token).isSome) :
    lookup map token label = .ok ((map.lookup token).getD "") := by
  obtain ⟨sql, hsql⟩ := Option.isSome_iff_exists.mp h
  rw [lookup_own label hsql (hmap (token, sql) (mem_of_lookup hsql)), hsql, Option.getD_some]

theorem METRIC_SQL_ne : ∀ entry ∈ METRIC_SQL, entry.2 ≠ "" := by
  unfold METRIC_SQL
  simp only [List.forall_mem_cons, ne_eq, String.append_eq_empty_iff, not_and_or]
  decide

theorem FIELD_SQL_ne : ∀ entry ∈ FIELD_SQL, entry.2 ≠ "" := by decide

theorem DATE_FIELD_SQL_ne : ∀ entry ∈ DATE_FIELD_SQL, entry.2 ≠ "" := by decide

theorem foldlM_pushFilter {filters : List ReportFilter}
    (h : ∀ filter ∈ filters, (FIELD_SQL.lookup filter.field).isSome) (built : Conditions) :
    filters.foldlM pushFilter built = .ok (built.pushAll (filters.map filterBound)) := by
  induction filters generalizing built with
  | nil => rfl
  | cons filter rest ih =>
    obtain ⟨hfilter, hrest⟩ := List.forall_mem_cons.mp h
    have hpush : pushFilter built filter
        = .ok (built.push (filterBound filter).sql (filterBound filter).operator (filterBound filter).value) := by
      rw [pushFilter, lookup_entry FIELD_SQL_ne _ hfilter]
      rfl
    rw [List.foldlM_cons, hpush]
    exact ih hrest _

theorem buildReportQuery_own {config : ReportConfig} (h : OwnTokens config) :
    buildReportQuery config = .ok {
      sql := reportSql ((FIELD_SQL.lookup config.groupBy).getD "") ((METRIC_SQL.lookup config.metric).getD "")
        (joinClause config.metric) (whereClause (numbered 1 (bounds config)))
      params := (bounds config).map Bound.value } := by
  have hranged : pushDateRange ((DATE_FIELD_SQL.lookup (config.dateField.getD "created_at")).getD "")
      { params := [], conditions := [] } config.dateRange
        = ({ params := [], conditions := [] } : Conditions).pushAll (rangeBounds config) := by
    unfold rangeBounds
    cases config.dateRange <;> rfl
  have hall : (({ params := [], conditions := [] } : Conditions).pushAll (rangeBounds config)).pushAll
        ((config.filters.getD []).map filterBound)
      = ({ params := [], conditions := [] } : Conditions).pushAll (bounds config) := by
    simp [Conditions.pushAll, bounds, List.foldl_append]
  rw [buildReportQuery, lookup_entry METRIC_SQL_ne _ h.metric, lookup_entry FIELD_SQL_ne _ h.groupBy,
    lookup_entry DATE_FIELD_SQL_ne _ h.dateField]
  simp only [bind, Except.bind, hranged, foldlM_pushFilter h.filters, hall]
  rw [pushAll_eq]
  rfl

-- The numbers of the placeholders in a text, in the order they stand in.
def placeholders : List Char → List Nat
  | [] => []
  | c :: rest =>
      let digits := rest.takeWhile Char.isDigit
      if c = '$' ∧ digits ≠ [] then Nat.ofDigitChars 10 digits 0 :: placeholders rest else placeholders rest

theorem placeholders_append {front : List Char} (h : '$' ∉ front) (rest : List Char) :
    placeholders (front ++ rest) = placeholders rest := by
  induction front with
  | nil => rfl
  | cons c front ih =>
    obtain ⟨hc, hfront⟩ := not_or.mp (mt List.mem_cons.mpr h)
    rw [List.cons_append, placeholders, if_neg (fun hin => hc hin.1.symm), ih hfront]

theorem placeholders_of_free {text : List Char} (h : '$' ∉ text) : placeholders text = [] := by
  simpa [placeholders] using placeholders_append h []

theorem placeholders_number (place : Nat) {rest : List Char} (h : ∀ c ∈ rest.head?, c.isDigit = false) :
    placeholders ('$' :: (Nat.toDigits 10 place ++ rest)) = place :: placeholders rest := by
  have hdigits : ∀ c ∈ Nat.toDigits 10 place, c.isDigit = true :=
    fun c hc => Nat.isDigit_of_mem_toDigits (by omega) (by omega) hc
  have htake : (Nat.toDigits 10 place ++ rest).takeWhile Char.isDigit = Nat.toDigits 10 place := by
    rw [List.takeWhile_append_of_pos hdigits]
    cases rest with
    | nil => simp
    | cons c rest => rw [List.takeWhile_cons_of_neg (by simpa using h c rfl), List.append_nil]
  have hfree : '$' ∉ Nat.toDigits 10 place := fun hin => absurd (hdigits _ hin) (by decide)
  rw [placeholders]
  simp only [htake]
  rw [if_pos ⟨trivial, Nat.toDigits_ne_nil⟩, Nat.ofDigitChars_ten_toDigits, placeholders_append hfree]

-- Where no expression has one of its own, the conditions have their own numbers.
theorem placeholders_conditions {bounds : List Bound}
    (h : ∀ bound ∈ bounds, '$' ∉ bound.sql.toList ∧ '$' ∉ bound.operator.toList) (place : Nat)
    {rest : List Char} (hrest : '$' ∉ rest) (hhead : ∀ c ∈ rest.head?, c.isDigit = false) :
    placeholders ((" AND ".intercalate (numbered place bounds)).toList ++ rest)
      = List.range' place bounds.length := by
  induction bounds generalizing place with
  | nil => simpa [numbered] using placeholders_of_free hrest
  | cons bound more ih =>
    obtain ⟨⟨hsql, hoperator⟩, hmore⟩ := List.forall_mem_cons.mp h
    have hfront : '$' ∉ bound.sql.toList ++ ' ' :: bound.operator.toList ++ [' '] := by
      simp [hsql, hoperator]
    have hone : ∀ tail, (s!"{bound.sql} {bound.operator} ${place}").toList ++ tail
        = (bound.sql.toList ++ ' ' :: bound.operator.toList ++ [' ']) ++ '$' :: (Nat.toDigits 10 place ++ tail) := by
      intro tail
      have hself : ∀ s : String, toString s = s := fun _ => rfl
      simp [hself]
    cases more with
    | nil =>
      have hjoin : (" AND ".intercalate (numbered place [bound])).toList
          = (s!"{bound.sql} {bound.operator} ${place}").toList := by
        simp [numbered]
      rw [hjoin, hone, placeholders_append hfront, placeholders_number place hhead, placeholders_of_free hrest]
      rfl
    | cons next more =>
      have hjoin : (" AND ".intercalate (numbered place (bound :: next :: more))).toList
          = (s!"{bound.sql} {bound.operator} ${place}").toList
            ++ (" AND ".toList ++ (" AND ".intercalate (numbered (place + 1) (next :: more))).toList) := by
        rw [String.toList_intercalate, String.toList_intercalate]
        simp only [numbered, List.map_cons, List.intercalate_cons_cons, List.append_assoc]
      have hand : '$' ∉ " AND ".toList := by decide
      rw [hjoin, List.append_assoc, hone, placeholders_append hfront, List.append_assoc,
        placeholders_number place (by simp), placeholders_append hand, ih hmore]
      rfl

theorem placeholders_where {bounds : List Bound}
    (h : ∀ bound ∈ bounds, '$' ∉ bound.sql.toList ∧ '$' ∉ bound.operator.toList)
    {rest : List Char} (hrest : '$' ∉ rest) (hhead : ∀ c ∈ rest.head?, c.isDigit = false) :
    placeholders ((whereClause (numbered 1 bounds)).toList ++ rest) = List.range' 1 bounds.length := by
  cases bounds with
  | nil => simpa [whereClause, numbered] using placeholders_of_free hrest
  | cons bound more =>
    have hne : numbered 1 (bound :: more) ≠ [] := by simp [numbered]
    have hword : '$' ∉ "WHERE ".toList := by decide
    rw [whereClause, if_neg hne, String.toList_append, List.append_assoc, placeholders_append hword,
      placeholders_conditions h 1 hrest hhead]

theorem placeholders_reportSql {dimensionSql metricSql joinSql : String} (hdimension : '$' ∉ dimensionSql.toList)
    (hmetric : '$' ∉ metricSql.toList) (hjoin : '$' ∉ joinSql.toList) {bounds : List Bound}
    (h : ∀ bound ∈ bounds, '$' ∉ bound.sql.toList ∧ '$' ∉ bound.operator.toList) :
    placeholders (reportSql dimensionSql metricSql joinSql (whereClause (numbered 1 bounds))).toList
      = List.range' 1 bounds.length := by
  have hself : ∀ s : String, toString s = s := fun _ => rfl
  have hsplit : (reportSql dimensionSql metricSql joinSql (whereClause (numbered 1 bounds))).toList
      = ("\n    SELECT ".toList ++ dimensionSql.toList ++ " AS bucket, ".toList ++ metricSql.toList
          ++ " AS value\n    FROM tickets t\n    ".toList ++ joinSql.toList ++ "\n    ".toList)
        ++ ((whereClause (numbered 1 bounds)).toList ++ "\n    GROUP BY bucket\n    ORDER BY bucket\n  ".toList) := by
    unfold reportSql
    simp only [hself, String.toList_append, List.append_assoc]
  have hfront : '$' ∉ "\n    SELECT ".toList ++ dimensionSql.toList ++ " AS bucket, ".toList ++ metricSql.toList
      ++ " AS value\n    FROM tickets t\n    ".toList ++ joinSql.toList ++ "\n    ".toList := by
    simp only [List.mem_append, not_or]
    exact ⟨⟨⟨⟨⟨⟨by decide, hdimension⟩, by decide⟩, hmetric⟩, by decide⟩, hjoin⟩, by decide⟩
  have hhead : ∀ c ∈ "\n    GROUP BY bucket\n    ORDER BY bucket\n  ".toList.head?, c.isDigit = false := by
    intro c hc
    obtain rfl := Option.some.inj hc
    rfl
  rw [hsplit, placeholders_append hfront, placeholders_where h (by decide) hhead]

theorem lookup_free {map : List (String × String)} (hmap : ∀ entry ∈ map, '$' ∉ entry.2.toList) (token : String) :
    '$' ∉ ((map.lookup token).getD "").toList := by
  cases hlookup : map.lookup token with
  | none => simp
  | some sql => exact hmap (token, sql) (mem_of_lookup hlookup)

-- A literal is the string of its characters; to take it apart again is slow to compute.
theorem free_ofList {chars : List Char} (h : '$' ∉ chars) : '$' ∉ (String.ofList chars).toList := by
  rwa [String.toList_ofList]

theorem METRIC_SQL_free : ∀ entry ∈ METRIC_SQL, '$' ∉ entry.2.toList := by
  unfold METRIC_SQL
  simp only [List.forall_mem_cons, String.toList_append, List.mem_append, not_or]
  refine ⟨free_ofList ?_, ⟨free_ofList ?_, free_ofList ?_⟩, ⟨free_ofList ?_, free_ofList ?_⟩,
    ⟨⟨free_ofList ?_, free_ofList ?_⟩, free_ofList ?_⟩, ⟨free_ofList ?_, free_ofList ?_⟩, List.forall_mem_nil _⟩ <;>
      decide

theorem FIELD_SQL_free : ∀ entry ∈ FIELD_SQL, '$' ∉ entry.2.toList := by decide +kernel

theorem DATE_FIELD_SQL_free : ∀ entry ∈ DATE_FIELD_SQL, '$' ∉ entry.2.toList := by decide +kernel

theorem joinClause_free (metric : String) : '$' ∉ (joinClause metric).toList := by
  unfold joinClause
  split_ifs <;> decide +kernel

theorem bounds_free (config : ReportConfig) :
    ∀ bound ∈ bounds config, '$' ∉ bound.sql.toList ∧ '$' ∉ bound.operator.toList := by
  intro bound hbound
  rcases List.mem_append.mp hbound with hrange | hfilter
  · have hdate := lookup_free DATE_FIELD_SQL_free (config.dateField.getD "created_at")
    unfold rangeBounds at hrange
    cases hsome : config.dateRange with
    | none => simp [hsome] at hrange
    | some range =>
      simp only [hsome, List.mem_cons, List.not_mem_nil, or_false] at hrange
      rcases hrange with rfl | rfl
      · exact ⟨hdate, (by decide : '$' ∉ ">=".toList)⟩
      · exact ⟨hdate, (by decide : '$' ∉ "<=".toList)⟩
  · obtain ⟨filter, -, rfl⟩ := List.mem_map.mp hfilter
    exact ⟨lookup_free FIELD_SQL_free filter.field, (by decide : '$' ∉ "=".toList)⟩

-- The same tokens in the same places, with any values.
structure SameShape (config other : ReportConfig) : Prop where
  metric : other.metric = config.metric
  groupBy : other.groupBy = config.groupBy
  dateField : other.dateField = config.dateField
  filters : (other.filters.getD []).map ReportFilter.field = (config.filters.getD []).map ReportFilter.field
  dateRange : other.dateRange.isSome = config.dateRange.isSome

theorem numbered_congr {bounds other : List Bound} (place : Nat)
    (h : other.map (fun bound => (bound.sql, bound.operator)) = bounds.map fun bound => (bound.sql, bound.operator)) :
    numbered place other = numbered place bounds := by
  induction bounds generalizing place other with
  | nil =>
    obtain rfl : other = [] := by simpa using h
    rfl
  | cons bound rest ih =>
    cases other with
    | nil => simp at h
    | cons first more =>
      simp only [List.map_cons, List.cons.injEq, Prod.mk.injEq] at h
      obtain ⟨⟨hsql, hoperator⟩, hrest⟩ := h
      rw [numbered, numbered, hsql, hoperator, ih (place + 1) hrest]

theorem numbered_getElem? {bounds : List Bound} {place : Nat} {bound : Bound} (h : bounds[place]? = some bound)
    (first : Nat) :
    (numbered first bounds)[place]? = some s!"{bound.sql} {bound.operator} ${first + place}" := by
  induction bounds generalizing place first with
  | nil => simp at h
  | cons next rest ih =>
    cases place with
    | zero =>
      obtain rfl : next = bound := by simpa using h
      rfl
    | succ place =>
      have hrest := ih (by simpa using h) (first + 1)
      rw [Nat.add_assoc, Nat.add_comm 1 place] at hrest
      simpa [numbered] using hrest

theorem SameShape.bounds {config other : ReportConfig} (h : SameShape config other) :
    (Reports.bounds other).map (fun bound => (bound.sql, bound.operator))
      = (Reports.bounds config).map fun bound => (bound.sql, bound.operator) := by
  have hrange : (rangeBounds other).map (fun bound => (bound.sql, bound.operator))
      = (rangeBounds config).map fun bound => (bound.sql, bound.operator) := by
    have hsame := h.dateRange
    unfold rangeBounds
    rw [h.dateField]
    cases hother : other.dateRange <;> cases hconfig : config.dateRange <;> simp_all
  have hfilters : ∀ filters : List ReportFilter,
      (filters.map filterBound).map (fun bound => (bound.sql, bound.operator))
        = (filters.map ReportFilter.field).map fun field => ((FIELD_SQL.lookup field).getD "", "=") := by
    intro filters
    simp [filterBound, Function.comp_def]
  rw [Reports.bounds, Reports.bounds, List.map_append, List.map_append, hrange, hfilters, hfilters, h.filters]

theorem SameShape.own {config other : ReportConfig} (h : SameShape config other) (hown : OwnTokens config) :
    OwnTokens other where
  metric := by rw [h.metric]; exact hown.metric
  groupBy := by rw [h.groupBy]; exact hown.groupBy
  dateField := by rw [h.dateField]; exact hown.dateField
  filters := by
    intro filter hfilter
    have hin : filter.field ∈ (config.filters.getD []).map ReportFilter.field := by
      rw [← h.filters]
      exact List.mem_map_of_mem hfilter
    obtain ⟨same, hsame, heq⟩ := List.mem_map.mp hin
    rw [← heq]
    exact hown.filters same hsame

-- The text of a query does not depend on the values, and each of its placeholders is the
-- place of its own condition's value.
theorem report_parameters_safe {config other : ReportConfig} (hown : OwnTokens config)
    (hshape : SameShape config other) :
    ∃ query otherQuery, buildReportQuery config = .ok query ∧ buildReportQuery other = .ok otherQuery
      ∧ otherQuery.sql = query.sql
      ∧ placeholders query.sql.toList = List.range' 1 query.params.length
      ∧ query.sql = reportSql ((FIELD_SQL.lookup config.groupBy).getD "") ((METRIC_SQL.lookup config.metric).getD "")
          (joinClause config.metric) (whereClause (numbered 1 (bounds config)))
      ∧ ∀ place bound, (bounds config)[place]? = some bound →
          (numbered 1 (bounds config))[place]? = some s!"{bound.sql} {bound.operator} ${1 + place}"
            ∧ query.params[place]? = some bound.value := by
  refine ⟨_, _, buildReportQuery_own hown, buildReportQuery_own (hshape.own hown), ?_, ?_, rfl, ?_⟩
  · rw [hshape.metric, hshape.groupBy, numbered_congr 1 hshape.bounds]
  · rw [List.length_map]
    exact placeholders_reportSql (lookup_free FIELD_SQL_free _) (lookup_free METRIC_SQL_free _)
      (joinClause_free _) (bounds_free config)
  · intro place bound hbound
    exact ⟨numbered_getElem? hbound 1, by rw [List.getElem?_map, hbound, Option.map_some]⟩

def csatConfig (fromDate toDate status : String) : ReportConfig where
  metric := "avg_csat"
  groupBy := "month"
  filters := some [⟨"status", status⟩]
  dateField := none
  dateRange := some ⟨fromDate, toDate⟩

theorem csat_parameters_safe :
    ∃ query, buildReportQuery (csatConfig "2026-01-01" "2026-02-01" "$9 OR true") = .ok query
      ∧ placeholders query.sql.toList = [1, 2, 3] := by
  have hown : OwnTokens (csatConfig "2026-01-01" "2026-02-01" "$9 OR true") :=
    ⟨by decide, by decide, by decide, fun filter hfilter => by
      obtain rfl := List.mem_singleton.mp hfilter
      decide⟩
  have hshape : SameShape (csatConfig "2026-01-01" "2026-02-01" "$9 OR true") (csatConfig "" "" "closed") :=
    ⟨rfl, rfl, rfl, rfl, rfl⟩
  obtain ⟨query, -, hquery, -, -, hplaceholders, -⟩ := report_parameters_safe hown hshape
  refine ⟨query, hquery, ?_⟩
  have hparams : query.params.length = 3 := by
    rw [buildReportQuery_own hown] at hquery
    cases hquery
    rfl
  rw [hplaceholders, hparams]
  rfl

-- String(value) of a property, undefined where the object has none.
def propertyText (value : Option Value) : Except String String :=
  match value with
  | none => .ok "undefined"
  | some value => value.toText

def stringProperty (properties : List (String × Value)) (key : String) : Option String :=
  match property properties key with
  | some (.string text) => some text
  | _ => none

-- text.slice(0, units), in UTF-16 code units. Of a pair that the cut goes through the
-- database gets the replacement character.
def sliceUnits : Nat → List Char → List Char
  | _, [] => []
  | 0, _ => []
  | 1, c :: _ => if 0xFFFF < c.toNat then [Char.ofNat 0xFFFD] else [c]
  | units + 2, c :: rest =>
      if 0xFFFF < c.toNat then c :: sliceUnits units rest else c :: sliceUnits (units + 1) rest

-- An entry of parsed.filters, where it is an object with a text as its value.
def coerceFilter : Value → Option (Except String ReportFilter)
  | .object properties =>
      (stringProperty properties "value").map fun value => do
        let field ← propertyText (property properties "field")
        return { field, value := .ofList (sliceUnits 500 value.toList) }
  | _ => none

def coerceFilters (parsed : List (String × Value)) : Except String (Option (List ReportFilter)) :=
  match property parsed "filters" with
  | some (.array entries) => do return some (← (entries.filterMap coerceFilter).mapM id)
  | _ => .ok none

-- What the model's answer comes to: no text in braces, one that JSON.parse rejects, or
-- the object it parses.
inductive ModelAnswer where
  | noJson
  | malformed
  | parsed (properties : List (String × Value))

-- `isDateText` is whether Date.parse makes a number of a text.
variable (isDateText : String → Bool)

def coerceDateRange (parsed : List (String × Value)) : Option ReportDateRange :=
  match property parsed "dateRange" with
  | some (.object range) =>
      match stringProperty range "from", stringProperty range "to" with
      | some fromDate, some toDate =>
          if isDateText fromDate && isDateText toDate then some { fromDate, toDate } else none
      | _, _ => none
  | _ => none

def coerce (parsed : List (String × Value)) : Except String ReportConfig := do
  let metric ← propertyText (property parsed "metric")
  let groupBy ← propertyText (property parsed "groupBy")
  let filters ← coerceFilters parsed
  return {
    metric
    groupBy
    filters
    dateField := stringProperty parsed "dateField"
    dateRange := coerceDateRange isDateText parsed }

def errorMessage : ServiceError → String
  | .badRequest message | .unauthorized message | .notFound message | .conflict message
  | .tooManyRequests message | .error message => message

-- The gate: the proposed config has to get through buildReportQuery.
def validateAnswer (parsed : List (String × Value)) : Except ServiceError ReportConfig :=
  match coerce isDateText parsed with
  | .error message => .error (.error message)
  | .ok config =>
      match buildReportQuery config with
      | .error err =>
          let message := errorMessage err
          .error (.badRequest
            s!"AI-generated report config failed validation: {message}. Try rephrasing the question.")
      | .ok _ => .ok config

-- `enabled` and `complete` are the client's: whether it is configured, and its answer.
def buildConfig (question : String) (enabled : Bool) (complete : Except String ModelAnswer) :
    Except ServiceError ReportConfig :=
  if (Js.trimmed question.toList).isEmpty then .error (.badRequest "question must not be empty")
  else if 2000 < (question.toList.map fun c => if 0xFFFF < c.toNat then 2 else 1).sum then
    .error (.badRequest "question must be at most 2000 characters")
  else if !enabled then .error (.badRequest "AI assist is not configured for this tenant")
  else
    match complete with
    | .error message => .error (.badRequest s!"AI parse failed: {message}")
    | .ok .noJson => .error (.badRequest "AI did not return a valid JSON report config. Try rephrasing.")
    | .ok .malformed => .error (.badRequest "AI returned malformed JSON. Try rephrasing.")
    | .ok (.parsed parsed) => validateAnswer isDateText parsed

-- The endpoint returns nothing that has not been through the gate.
theorem buildConfig_ok {question : String} {enabled : Bool} {complete : Except String ModelAnswer}
    {config : ReportConfig} (h : buildConfig isDateText question enabled complete = .ok config) :
    ∃ parsed, complete = .ok (.parsed parsed) ∧ validateAnswer isDateText parsed = .ok config := by
  unfold buildConfig at h
  split_ifs at h
  cases complete with
  | error message => cases h
  | ok answer =>
    cases answer with
    | noJson => cases h
    | malformed => cases h
    | parsed properties => exact ⟨properties, rfl, h⟩

end CloudOps.Ticketing.Reports
