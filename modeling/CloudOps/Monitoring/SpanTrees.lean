import CloudOps.Js.Value
import CloudOps.Monitoring.ApmService
import CloudOps.ReadCommitted.Table
import CloudOps.ServiceError
import CloudOps.Ticketing.Ticket
import CloudOps.Transaction
import Mathlib.Order.RelIso.Basic

namespace CloudOps.Monitoring.Apm

open CloudOps.Js CloudOps.ReadCommitted CloudOps.Transaction
open CloudOps.Ticketing (Uuid)

structure IngestSpanDto where
  spanId : String
  parentSpanId : Option String
  name : String
  kind : Option String
  durationMs : Nat
  attributes : Option String
  deriving DecidableEq

structure IngestTraceDto where
  transaction : String
  durationMs : Nat
  status : Option String
  ts : Option String
  spans : Option (List IngestSpanDto)

-- A row of apm_spans. Attributes are JSON text.
structure ApmSpan where
  traceId : Uuid
  parentSpanId : Option Uuid
  name : String
  kind : String
  durationMs : Nat
  attributes : String
  deriving DecidableEq

-- The two tables, and how many uuids have been drawn.
structure IngestStore where
  traces : Table Uuid ApmTrace
  spans : Table Uuid ApmSpan
  drawn : Nat

abbrev IngestM := StateT IngestStore (Except ServiceError)

-- How timestamptz reads a text, and which JSON texts jsonb takes.
structure ColumnTypes where
  castTimestamptz : String → Option Nat
  takesJsonb : String → Bool

-- The uuids that randomUUID() and gen_random_uuid() draw.
variable (types : ColumnTypes) (uuid : Nat → Uuid)

-- A text holds no NUL.
def isText (text : String) : Bool := !text.toList.contains '\x00'

def isInt (value : Nat) : Bool := value ≤ 2147483647

-- A value as its column takes it, or the exception of one it refuses.
def check (taken : Bool) (message : String) : IngestM Unit := if taken then pure () else throw (.error message)

def castText (text : String) : IngestM Unit := check (isText text) "invalid byte sequence for encoding \"UTF8\": 0x00"

def castInt (value : Nat) : IngestM Unit :=
  check (isInt value) s!"value \"{value}\" is out of range for type integer"

def castJsonb (text : String) : IngestM Unit := check (types.takesJsonb text) "unsupported Unicode escape sequence"

def drawUuid : IngestM Uuid := modifyGet fun store => (uuid store.drawn, { store with drawn := store.drawn + 1 })

def duplicateKey : ServiceError := .error "duplicate key value violates unique constraint"

section Traces

variable (service : String) (now : Nat)

-- COALESCE($4::timestamptz, now())
def IngestTraceDto.instant (trace : IngestTraceDto) : Option Nat :=
  match trace.ts with
  | none => some now
  | some text => types.castTimestamptz text

def traceRow (ts : Nat) (trace : IngestTraceDto) : ApmTrace where
  service := service
  transaction := trace.transaction
  ts := ts
  durationMs := trace.durationMs
  status := trace.status.getD "ok"

def insertTrace (trace : IngestTraceDto) : IngestM Uuid := do
  castText trace.transaction
  castInt trace.durationMs
  match trace.instant types now with
  | none => throw (.error "invalid input syntax for type timestamp with time zone")
  | some ts => do
      let id ← drawUuid uuid
      let store ← get
      if id ∈ store.traces then throw duplicateKey
      modify fun store => { store with traces := store.traces.insert id (traceRow service ts trace) }
      return id

end Traces

def insertSpan (id : Uuid) (row : ApmSpan) : IngestM Unit := do
  castText row.name
  castText row.kind
  castInt row.durationMs
  castJsonb types row.attributes
  let store ← get
  if id ∈ store.spans then throw duplicateKey
  modify fun store => { store with spans := store.spans.insert id row }

-- spanIdMap.set(span.spanId, randomUUID()), for each span
def drawSpanIds : List IngestSpanDto → IngestM (List (String × Uuid))
  | [] => return []
  | span :: rest => do
      let id ← drawUuid uuid
      let entries ← drawSpanIds rest
      return (span.spanId, id) :: entries

-- The row of a span, its parent looked up among the ids given to the trace's own spans.
def spanRow (traceId : Uuid) (spanIdMap : List (String × Uuid)) (span : IngestSpanDto) : ApmSpan where
  traceId := traceId
  parentSpanId := (span.parentSpanId.filter (· ≠ "")).bind (mapGet spanIdMap)
  name := span.name
  kind := span.kind.getD "internal"
  durationMs := span.durationMs
  attributes := span.attributes.getD "\x7b\x7d"

def insertSpans (traceId : Uuid) (spanIdMap : List (String × Uuid)) : List IngestSpanDto → IngestM Unit
  | [] => return
  | span :: rest => do
      match mapGet spanIdMap span.spanId with
      | none => throw (.error "null value in column \"id\" violates not-null constraint")
      | some id =>
          insertSpan types id (spanRow traceId spanIdMap span)
          insertSpans traceId spanIdMap rest

variable (service : String) (now : Nat)

def ingestTrace (trace : IngestTraceDto) : IngestM Unit := do
  let traceId ← insertTrace types uuid service now trace
  let spanIdMap ← drawSpanIds uuid (trace.spans.getD [])
  insertSpans types traceId spanIdMap (trace.spans.getD [])

-- ApmService.ingestTraces: all of it is one transaction, which began at `now`.
def ingestTraces : List IngestTraceDto → IngestM Unit
  | [] => return
  | trace :: rest => do
      ingestTrace types uuid service now trace
      ingestTraces rest

-- What the columns take.
def IngestSpanDto.storable (span : IngestSpanDto) : Bool :=
  isText span.name && isText (span.kind.getD "internal") && isInt span.durationMs &&
    types.takesJsonb (span.attributes.getD "\x7b\x7d")

def IngestTraceDto.storable (trace : IngestTraceDto) : Bool :=
  isText trace.transaction && isInt trace.durationMs && (trace.instant types now).isSome &&
    (trace.spans.getD []).all (IngestSpanDto.storable types)

-- The client's relation: the one span is the other's parent.
def ClientParent (spans : List IngestSpanDto) (child parent : { span // span ∈ spans }) : Prop :=
  child.1.parentSpanId = some parent.1.spanId ∧ parent.1.spanId ≠ ""

-- A span whose parent is absent, empty or not among the spans.
def IsRoot (spans : List IngestSpanDto) (span : IngestSpanDto) : Prop :=
  ∀ parent, span.parentSpanId = some parent → parent = "" ∨ parent ∉ spans.map IngestSpanDto.spanId

def InTrace (table : Table Uuid ApmSpan) (traceId : Uuid) (id : Uuid) : Prop :=
  ∃ row, table.lookup id = some row ∧ row.traceId = traceId

-- The stored relation, by parent_span_id.
def StoredParent (table : Table Uuid ApmSpan) (traceId : Uuid) (child parent : { id // InTrace table traceId id }) :
    Prop :=
  ∃ row, table.lookup child.1 = some row ∧ row.parentSpanId = some parent.1

-- The trace is stored, and its spans form the client's relation: each is the row of one
-- of the client's spans, a root if that is a root, and has its parent, if any, in the trace.
structure TraceStored (trace : IngestTraceDto) (traceId : Uuid) (store : IngestStore) : Prop where
  row : ∃ ts, trace.instant types now = some ts ∧ store.traces.lookup traceId = some (traceRow service ts trace)
  tree : ∃ ids : ClientParent (trace.spans.getD []) ≃r StoredParent store.spans traceId, ∀ span,
    ∃ row, store.spans.lookup (ids span).1 = some row ∧ row.name = span.1.name ∧
      row.kind = span.1.kind.getD "internal" ∧ row.durationMs = span.1.durationMs ∧
      row.attributes = span.1.attributes.getD "\x7b\x7d" ∧
      (row.parentSpanId = none ↔ IsRoot (trace.spans.getD []) span.1)
  inside : ∀ id row parent, store.spans.lookup id = some row → row.traceId = traceId →
    row.parentSpanId = some parent → InTrace store.spans traceId parent

-- The uuids still to be drawn are in neither table, and every span belongs to a trace.
structure IngestStore.Sound (store : IngestStore) : Prop where
  freshTrace : ∀ n, store.drawn ≤ n → uuid n ∉ store.traces
  freshSpan : ∀ n, store.drawn ≤ n → uuid n ∉ store.spans
  references : ∀ id row, store.spans.lookup id = some row → row.traceId ∈ store.traces

-- What a batch leaves of the store: rows are added, those of spans for new traces only.
structure Grown (before after : IngestStore) : Prop where
  traces : ∀ id row, before.traces.lookup id = some row → after.traces.lookup id = some row
  spans : ∀ id row, before.spans.lookup id = some row → after.spans.lookup id = some row
  new : ∀ id row, after.spans.lookup id = some row →
    before.spans.lookup id = some row ∨ row.traceId ∉ before.traces

theorem Grown.refl (store : IngestStore) : Grown store store :=
  ⟨fun _ _ h => h, fun _ _ h => h, fun _ _ h => .inl h⟩

theorem Grown.trans {a b c : IngestStore} (hab : Grown a b) (hbc : Grown b c) : Grown a c where
  traces id row h := hbc.traces id row (hab.traces id row h)
  spans id row h := hbc.spans id row (hab.spans id row h)
  new id row h := by
    rcases hbc.new id row h with hold | hnew
    · exact hab.new id row hold
    · refine .inr fun hin => hnew ?_
      obtain ⟨old, hlookup⟩ := Option.isSome_iff_exists.mp (AList.lookup_isSome.mpr hin)
      exact AList.lookup_isSome.mp (hab.traces _ old hlookup ▸ rfl)

-- What the ids drawn for the spans of a trace are.
def spanEntries (first : Nat) : List IngestSpanDto → List (String × Uuid)
  | [] => []
  | span :: rest => (span.spanId, uuid first) :: spanEntries (first + 1) rest

theorem run_drawSpanIds (spans : List IngestSpanDto) (store : IngestStore) :
    (drawSpanIds uuid spans).run store =
      .ok (spanEntries uuid store.drawn spans, { store with drawn := store.drawn + spans.length }) := by
  induction spans generalizing store with
  | nil => rfl
  | cons span rest ih =>
      have hdraw : (drawUuid uuid).run store = .ok (uuid store.drawn, { store with drawn := store.drawn + 1 }) := rfl
      have hcount : store.drawn + (rest.length + 1) = store.drawn + 1 + rest.length := by omega
      rw [drawSpanIds, run_bind_ok hdraw, run_bind_ok (ih _), List.length_cons, hcount]
      rfl

theorem keys_spanEntries (first : Nat) (spans : List IngestSpanDto) :
    (spanEntries uuid first spans).map Prod.fst = spans.map IngestSpanDto.spanId := by
  induction spans generalizing first with
  | nil => rfl
  | cons span rest ih => exact congrArg (span.spanId :: ·) (ih (first + 1))

theorem mem_spanEntries {first : Nat} {spans : List IngestSpanDto} {entry : String × Uuid}
    (h : entry ∈ spanEntries uuid first spans) :
    ∃ n, first ≤ n ∧ n < first + spans.length ∧ entry.2 = uuid n := by
  induction spans generalizing first with
  | nil => exact absurd h List.not_mem_nil
  | cons span rest ih =>
      rcases List.mem_cons.mp h with rfl | hrest
      · exact ⟨first, le_rfl, by simp, rfl⟩
      · obtain ⟨n, hle, hlt, hid⟩ := ih hrest
        rw [List.length_cons]
        exact ⟨n, by omega, by omega, hid⟩

theorem nodup_spanEntries (hinj : Function.Injective uuid) (first : Nat) (spans : List IngestSpanDto) :
    ((spanEntries uuid first spans).map Prod.snd).Nodup := by
  induction spans generalizing first with
  | nil => exact List.nodup_nil
  | cons span rest ih =>
      refine List.nodup_cons.mpr ⟨fun hmem => ?_, ih (first + 1)⟩
      obtain ⟨entry, hentry, hid⟩ := List.mem_map.mp hmem
      obtain ⟨n, hle, -, hn⟩ := mem_spanEntries uuid hentry
      have hsame := hinj (hn.symm.trans hid)
      omega

-- The spans of a trace as rows, each under the id its spanId was given, and no others.
structure TreeRows (spans : List IngestSpanDto) (traceId : Uuid) (spanIdMap : List (String × Uuid))
    (table : Table Uuid ApmSpan) : Prop where
  keys : spanIdMap.map Prod.fst = spans.map IngestSpanDto.spanId
  nodupKeys : (spanIdMap.map Prod.fst).Nodup
  nodupIds : (spanIdMap.map Prod.snd).Nodup
  rows : ∀ span ∈ spans, ∀ id, mapGet spanIdMap span.spanId = some id →
    table.lookup id = some (spanRow traceId spanIdMap span)
  only : ∀ id row, table.lookup id = some row → row.traceId = traceId →
    ∃ span ∈ spans, mapGet spanIdMap span.spanId = some id

namespace TreeRows

variable {uuid} {spans : List IngestSpanDto} {traceId : Uuid} {spanIdMap : List (String × Uuid)}
  {table : Table Uuid ApmSpan}

theorem exists_id (h : TreeRows spans traceId spanIdMap table) {span : IngestSpanDto} (hspan : span ∈ spans) :
    ∃ id, mapGet spanIdMap span.spanId = some id := by
  have hkey : span.spanId ∈ spanIdMap.map Prod.fst := h.keys ▸ List.mem_map_of_mem hspan
  exact Option.ne_none_iff_exists'.mp fun hnone => mapGet_eq_none.mp hnone hkey

-- Different spans have different ids.
theorem spanId_inj (h : TreeRows spans traceId spanIdMap table) {first second : String} {id : Uuid}
    (hfirst : mapGet spanIdMap first = some id) (hsecond : mapGet spanIdMap second = some id) : first = second :=
  (Prod.mk.inj (List.inj_on_of_nodup_map h.nodupIds (mem_of_mapGet hfirst) (mem_of_mapGet hsecond) rfl)).1

theorem span_inj (h : TreeRows spans traceId spanIdMap table) {first second : IngestSpanDto}
    (hfirst : first ∈ spans) (hsecond : second ∈ spans) (hid : first.spanId = second.spanId) : first = second :=
  List.inj_on_of_nodup_map (h.keys ▸ h.nodupKeys) hfirst hsecond hid

theorem parent_iff (h : TreeRows spans traceId spanIdMap table) {parent : IngestSpanDto} {id : Uuid}
    (hid : mapGet spanIdMap parent.spanId = some id) (span : IngestSpanDto) :
    (spanRow traceId spanIdMap span).parentSpanId = some id ↔
      span.parentSpanId = some parent.spanId ∧ parent.spanId ≠ "" := by
  change (span.parentSpanId.filter (· ≠ "")).bind (mapGet spanIdMap) = some id ↔ _
  rw [Option.bind_eq_some_iff]
  constructor
  · rintro ⟨name, hname, hget⟩
    obtain ⟨hparent, hnonempty⟩ := Option.filter_eq_some_iff.mp hname
    obtain rfl := h.spanId_inj hget hid
    exact ⟨hparent, of_decide_eq_true hnonempty⟩
  · rintro ⟨hparent, hnonempty⟩
    exact ⟨parent.spanId, Option.filter_eq_some_iff.mpr ⟨hparent, decide_eq_true hnonempty⟩, hid⟩

theorem root_iff (h : TreeRows spans traceId spanIdMap table) (span : IngestSpanDto) :
    (spanRow traceId spanIdMap span).parentSpanId = none ↔ IsRoot spans span := by
  change (span.parentSpanId.filter (· ≠ "")).bind (mapGet spanIdMap) = none ↔ _
  rw [Option.bind_eq_none_iff, IsRoot, ← h.keys]
  constructor
  · intro hnone parent hparent
    by_cases hempty : parent = ""
    · exact .inl hempty
    · have hsome : span.parentSpanId.filter (· ≠ "") = some parent :=
        Option.filter_eq_some_iff.mpr ⟨hparent, decide_eq_true hempty⟩
      exact .inr (mapGet_eq_none.mp (hnone parent hsome))
  · intro hroot parent hparent
    obtain ⟨hparent, hnonempty⟩ := Option.filter_eq_some_iff.mp hparent
    rcases hroot parent hparent with hempty | hnot
    · exact absurd hempty (of_decide_eq_true hnonempty)
    · exact mapGet_eq_none.mpr hnot

theorem inside (h : TreeRows spans traceId spanIdMap table) {id : Uuid} {row : ApmSpan} {parent : Uuid}
    (hrow : table.lookup id = some row) (htrace : row.traceId = traceId) (hparent : row.parentSpanId = some parent) :
    InTrace table traceId parent := by
  obtain ⟨span, hspan, hid⟩ := h.only id row hrow htrace
  rw [h.rows span hspan id hid] at hrow
  obtain rfl := Option.some.inj hrow
  obtain ⟨name, -, hget⟩ := Option.bind_eq_some_iff.mp hparent
  have hkey : name ∈ spans.map IngestSpanDto.spanId := h.keys ▸ List.mem_map_of_mem (mem_of_mapGet hget)
  obtain ⟨other, hother, rfl⟩ := List.mem_map.mp hkey
  exact ⟨_, h.rows other hother parent hget, rfl⟩

-- The ids given to the spans carry the client's relation to the stored one.
theorem relIso (h : TreeRows spans traceId spanIdMap table) :
    ∃ ids : ClientParent spans ≃r StoredParent table traceId, ∀ span,
      table.lookup (ids span).1 = some (spanRow traceId spanIdMap span.1) := by
  choose idOf hidOf using fun span : { span // span ∈ spans } => h.exists_id span.2
  have hrow : ∀ span, table.lookup (idOf span) = some (spanRow traceId spanIdMap span.1) :=
    fun span => h.rows span.1 span.2 _ (hidOf span)
  let toId : { span // span ∈ spans } → { id // InTrace table traceId id } :=
    fun span => ⟨idOf span, _, hrow span, rfl⟩
  have hbijective : Function.Bijective toId := by
    constructor
    · intro first second heq
      have hsame : idOf first = idOf second := congrArg Subtype.val heq
      have hsecond := hidOf second
      rw [← hsame] at hsecond
      exact Subtype.ext (h.span_inj first.2 second.2 (h.spanId_inj (hidOf first) hsecond))
    · rintro ⟨id, row, hlookup, htrace⟩
      obtain ⟨span, hspan, hid⟩ := h.only id row hlookup htrace
      refine ⟨⟨span, hspan⟩, Subtype.ext ?_⟩
      exact Option.some.inj ((hidOf ⟨span, hspan⟩).symm.trans hid)
  refine ⟨⟨Equiv.ofBijective toId hbijective, ?_⟩, hrow⟩
  intro child parent
  change (∃ row, table.lookup (idOf child) = some row ∧ row.parentSpanId = some (idOf parent)) ↔ _
  rw [hrow child]
  constructor
  · rintro ⟨row, hsome, hparent⟩
    obtain rfl := Option.some.inj hsome
    exact (h.parent_iff (hidOf parent) child.1).mp hparent
  · intro hclient
    exact ⟨_, rfl, (h.parent_iff (hidOf parent) child.1).mpr hclient⟩

-- Later batches leave the trace as it is.
theorem grown {before after : IngestStore} (h : TreeRows spans traceId spanIdMap before.spans)
    (hgrown : Grown before after) (htrace : traceId ∈ before.traces) :
    TreeRows spans traceId spanIdMap after.spans where
  keys := h.keys
  nodupKeys := h.nodupKeys
  nodupIds := h.nodupIds
  rows span hspan id hid := hgrown.spans id _ (h.rows span hspan id hid)
  only id row hlookup hsame := by
    rcases hgrown.new id row hlookup with hold | hnew
    · exact h.only id row hold hsame
    · exact absurd (hsame ▸ htrace) hnew

end TreeRows

theorem check_ok {taken : Bool} (h : taken = true) (message : String) (store : IngestStore) :
    (check taken message).run store = .ok ((), store) := by
  rw [check, if_pos h]
  rfl

theorem castText_ok {text : String} (h : isText text) (store : IngestStore) :
    (castText text).run store = .ok ((), store) :=
  check_ok h _ store

theorem castInt_ok {value : Nat} (h : isInt value) (store : IngestStore) :
    (castInt value).run store = .ok ((), store) :=
  check_ok h _ store

theorem castJsonb_ok {text : String} (h : types.takesJsonb text) (store : IngestStore) :
    (castJsonb types text).run store = .ok ((), store) :=
  check_ok h _ store

theorem run_insertSpan {traceId id : Uuid} {spanIdMap : List (String × Uuid)} {span : IngestSpanDto}
    {store : IngestStore} (hspan : span.storable types) (hnot : id ∉ store.spans) :
    (insertSpan types id (spanRow traceId spanIdMap span)).run store =
      .ok ((), { store with spans := store.spans.insert id (spanRow traceId spanIdMap span) }) := by
  obtain ⟨⟨⟨hname, hkind⟩, hduration⟩, hattributes⟩ := by
    simpa only [IngestSpanDto.storable, Bool.and_eq_true] using hspan
  unfold insertSpan
  have hname : isText (spanRow traceId spanIdMap span).name := hname
  have hkind : isText (spanRow traceId spanIdMap span).kind := hkind
  have hduration : isInt (spanRow traceId spanIdMap span).durationMs := hduration
  have hattributes : types.takesJsonb (spanRow traceId spanIdMap span).attributes := hattributes
  rw [run_bind_ok (castText_ok hname _), run_bind_ok (castText_ok hkind _), run_bind_ok (castInt_ok hduration _),
    run_bind_ok (castJsonb_ok types hattributes _)]
  change (if id ∈ store.spans then throw duplicateKey else _ : IngestM Unit).run store = _
  rw [if_neg hnot]
  rfl

theorem run_insertTrace {trace : IngestTraceDto} {ts : Nat} {store : IngestStore}
    (htransaction : isText trace.transaction) (hduration : isInt trace.durationMs)
    (hts : trace.instant types now = some ts) (hnot : uuid store.drawn ∉ store.traces) :
    (insertTrace types uuid service now trace).run store = .ok (uuid store.drawn,
      ⟨store.traces.insert (uuid store.drawn) (traceRow service ts trace), store.spans, store.drawn + 1⟩) := by
  unfold insertTrace
  rw [run_bind_ok (castText_ok htransaction _), run_bind_ok (castInt_ok hduration _)]
  simp only [hts]
  change (if uuid store.drawn ∈ store.traces then throw duplicateKey else _ : IngestM Uuid).run
    { store with drawn := store.drawn + 1 } = _
  rw [if_neg hnot]
  rfl

-- The inserts of spans with ids that are not taken.
theorem run_insertSpans (traceId : Uuid) {spanIdMap : List (String × Uuid)} {spans : List IngestSpanDto}
    {store : IngestStore} (hnodup : (spans.map IngestSpanDto.spanId).Nodup)
    (hfree : ∀ span ∈ spans, ∃ id, mapGet spanIdMap span.spanId = some id ∧ id ∉ store.spans)
    (hinj : ∀ {first second : String} {id : Uuid}, mapGet spanIdMap first = some id →
      mapGet spanIdMap second = some id → first = second)
    (hstorable : ∀ span ∈ spans, span.storable types) :
    ∃ table, (insertSpans types traceId spanIdMap spans).run store = .ok ((), { store with spans := table }) ∧
      (∀ span ∈ spans, ∀ id, mapGet spanIdMap span.spanId = some id →
        table.lookup id = some (spanRow traceId spanIdMap span)) ∧
      ∀ id, (∀ span ∈ spans, mapGet spanIdMap span.spanId ≠ some id) →
        table.lookup id = store.spans.lookup id := by
  induction spans generalizing store with
  | nil => exact ⟨store.spans, rfl, fun _ h => absurd h List.not_mem_nil, fun _ _ => rfl⟩
  | cons span rest ih =>
      obtain ⟨hnew, hrest⟩ := List.nodup_cons.mp hnodup
      obtain ⟨⟨id, hid, hnot⟩, hfreeRest⟩ := List.forall_mem_cons.mp hfree
      have hother : ∀ other ∈ rest, mapGet spanIdMap other.spanId ≠ some id := by
        intro other hmem hsame
        exact hnew (hinj hid hsame ▸ List.mem_map_of_mem hmem)
      let middle : IngestStore :=
        { store with spans := store.spans.insert id (spanRow traceId spanIdMap span) }
      obtain ⟨hspan, hstorableRest⟩ := List.forall_mem_cons.mp hstorable
      have hinsert : (insertSpan types id (spanRow traceId spanIdMap span)).run store = .ok ((), middle) :=
        run_insertSpan types hspan hnot
      have hstill : ∀ other ∈ rest, ∃ id, mapGet spanIdMap other.spanId = some id ∧ id ∉ middle.spans := by
        intro other hmem
        obtain ⟨otherId, hget, hfree⟩ := hfreeRest other hmem
        refine ⟨otherId, hget, fun hin => ?_⟩
        rcases AList.mem_insert _ |>.mp hin with rfl | hold
        · exact hother other hmem hget
        · exact hfree hold
      obtain ⟨table, hrun, hrows, hframe⟩ := ih hrest hstill hstorableRest
      refine ⟨table, ?_, ?_, ?_⟩
      · rw [insertSpans]
        simp only [hid]
        rw [run_bind_ok hinsert]
        exact hrun
      · intro other hmem otherId hget
        rcases List.mem_cons.mp hmem with rfl | hmem
        · obtain rfl := Option.some.inj (hid.symm.trans hget)
          rw [hframe id hother]
          exact AList.lookup_insert _
        · exact hrows other hmem otherId hget
      · intro otherId hnone
        obtain ⟨hfirst, hnone⟩ := List.forall_mem_cons.mp hnone
        rw [hframe otherId hnone]
        exact AList.lookup_insert_ne fun hsame => hfirst (hsame ▸ hid)

-- The store once a trace is in, its spans being those of the table.
def afterTrace (store : IngestStore) (row : ApmTrace) (spanCount : Nat) (table : Table Uuid ApmSpan) : IngestStore where
  traces := store.traces.insert (uuid store.drawn) row
  spans := table
  drawn := store.drawn + 1 + spanCount

-- The rows that are new in the table are the trace's, under uuids drawn for them.
structure SpansAdded (store : IngestStore) (spanCount : Nat) (table : Table Uuid ApmSpan) : Prop where
  kept : ∀ id row, store.spans.lookup id = some row → table.lookup id = some row
  added : ∀ id row, table.lookup id = some row → store.spans.lookup id = some row ∨
    row.traceId = uuid store.drawn ∧ ∃ n, store.drawn < n ∧ n < store.drawn + 1 + spanCount ∧ id = uuid n

namespace SpansAdded

variable {uuid} {store : IngestStore} {spanCount : Nat} {table : Table Uuid ApmSpan}

theorem sound (h : SpansAdded uuid store spanCount table) (hinj : Function.Injective uuid)
    (hstore : store.Sound uuid) (row : ApmTrace) : (afterTrace uuid store row spanCount table).Sound uuid where
  freshTrace n hn hin := by
    have hdrawn : store.drawn + 1 + spanCount ≤ n := hn
    rcases AList.mem_insert _ |>.mp hin with hsame | hold
    · have := hinj hsame
      omega
    · exact hstore.freshTrace n (by omega) hold
  freshSpan n hn hin := by
    have hdrawn : store.drawn + 1 + spanCount ≤ n := hn
    obtain ⟨span, hlookup⟩ := Option.isSome_iff_exists.mp (AList.lookup_isSome.mpr hin)
    rcases h.added _ span hlookup with hold | ⟨-, m, -, hlt, hsame⟩
    · exact hstore.freshSpan n (by omega) (Table.mem_of_lookup hold)
    · have := hinj hsame
      omega
  references id span hlookup := by
    rcases h.added id span hlookup with hold | ⟨htrace, -⟩
    · exact AList.mem_insert _ |>.mpr (.inr (hstore.references id span hold))
    · exact AList.mem_insert _ |>.mpr (.inl htrace)

theorem grown (h : SpansAdded uuid store spanCount table) (hstore : store.Sound uuid) (row : ApmTrace) :
    Grown store (afterTrace uuid store row spanCount table) where
  traces id old hlookup := by
    have hne : id ≠ uuid store.drawn := fun hsame =>
      hstore.freshTrace store.drawn le_rfl (hsame ▸ Table.mem_of_lookup hlookup)
    exact (AList.lookup_insert_ne hne).trans hlookup
  spans := h.kept
  new id span hlookup := by
    rcases h.added id span hlookup with hold | ⟨htrace, -⟩
    · exact .inl hold
    · exact .inr (htrace ▸ hstore.freshTrace store.drawn le_rfl)

end SpansAdded

-- The spans of a trace, under the uuids drawn after the trace's own.
theorem spansAdded (hinj : Function.Injective uuid) {store : IngestStore} (hstore : store.Sound uuid)
    {spans : List IngestSpanDto} (hunique : (spans.map IngestSpanDto.spanId).Nodup)
    (hstorable : ∀ span ∈ spans, span.storable types) (traces : Table Uuid ApmTrace) (drawn : Nat) :
    ∃ table, (insertSpans types (uuid store.drawn) (spanEntries uuid (store.drawn + 1) spans) spans).run
        ⟨traces, store.spans, drawn⟩ = .ok ((), ⟨traces, table, drawn⟩) ∧
      SpansAdded uuid store spans.length table ∧
      TreeRows spans (uuid store.drawn) (spanEntries uuid (store.drawn + 1) spans) table := by
  have hkeys := keys_spanEntries uuid (store.drawn + 1) spans
  have hnodupIds := nodup_spanEntries uuid hinj (store.drawn + 1) spans
  have hdrawn : ∀ {entry : String × Uuid}, entry ∈ spanEntries uuid (store.drawn + 1) spans →
      ∃ n, store.drawn + 1 ≤ n ∧ n < store.drawn + 1 + spans.length ∧ entry.2 = uuid n := mem_spanEntries uuid
  generalize spanEntries uuid (store.drawn + 1) spans = spanIdMap at hkeys hnodupIds hdrawn ⊢
  have hfree : ∀ span ∈ spans, ∃ id, mapGet spanIdMap span.spanId = some id ∧
      id ∉ (⟨traces, store.spans, drawn⟩ : IngestStore).spans := by
    intro span hspan
    have hkey : span.spanId ∈ spanIdMap.map Prod.fst := hkeys ▸ List.mem_map_of_mem hspan
    obtain ⟨id, hid⟩ := Option.ne_none_iff_exists'.mp fun hnone => mapGet_eq_none.mp hnone hkey
    obtain ⟨n, hle, -, hn⟩ := hdrawn (mem_of_mapGet hid)
    refine ⟨id, hid, ?_⟩
    change id ∉ store.spans
    rw [show id = uuid n from hn]
    exact hstore.freshSpan n (by omega)
  have hsameName : ∀ {first second : String} {id : Uuid}, mapGet spanIdMap first = some id →
      mapGet spanIdMap second = some id → first = second := fun hfirst hsecond =>
    (Prod.mk.inj (List.inj_on_of_nodup_map hnodupIds (mem_of_mapGet hfirst) (mem_of_mapGet hsecond) rfl)).1
  obtain ⟨table, hrun, hrows, hframe⟩ := run_insertSpans types (uuid store.drawn) hunique hfree hsameName hstorable
  have hcases : ∀ id row, table.lookup id = some row → store.spans.lookup id = some row ∨
      row.traceId = uuid store.drawn ∧ ∃ span ∈ spans, mapGet spanIdMap span.spanId = some id := by
    intro id row hlookup
    by_cases hnew : ∃ span ∈ spans, mapGet spanIdMap span.spanId = some id
    · obtain ⟨span, hspan, hid⟩ := hnew
      rw [hrows span hspan id hid] at hlookup
      exact .inr ⟨(Option.some.inj hlookup) ▸ rfl, span, hspan, hid⟩
    · rw [hframe id fun span hspan hid => hnew ⟨span, hspan, hid⟩] at hlookup
      exact .inl hlookup
  refine ⟨table, hrun, ⟨?_, ?_⟩, ⟨hkeys, hkeys ▸ hunique, hnodupIds, hrows, ?_⟩⟩
  · intro id row hlookup
    rw [hframe id]
    · exact hlookup
    · intro span hspan hid
      obtain ⟨n, hle, -, hn⟩ := hdrawn (mem_of_mapGet hid)
      exact hstore.freshSpan n (by omega) (hn ▸ Table.mem_of_lookup hlookup)
  · intro id row hlookup
    rcases hcases id row hlookup with hold | ⟨htrace, span, -, hid⟩
    · exact .inl hold
    · obtain ⟨n, hle, hlt, hn⟩ := hdrawn (mem_of_mapGet hid)
      exact .inr ⟨htrace, n, by omega, hlt, hn⟩
  · intro id row hlookup htrace
    rcases hcases id row hlookup with hold | ⟨-, hspan⟩
    · exact absurd (htrace ▸ hstore.references id row hold) (hstore.freshTrace store.drawn le_rfl)
    · exact hspan

-- One trace: its row and its spans.
theorem run_ingestTrace (hinj : Function.Injective uuid) {store : IngestStore} (hstore : store.Sound uuid)
    {trace : IngestTraceDto} (hunique : ((trace.spans.getD []).map IngestSpanDto.spanId).Nodup)
    (hstorable : trace.storable types now) :
    ∃ after spanIdMap ts, (ingestTrace types uuid service now trace).run store = .ok ((), after) ∧
      after.Sound uuid ∧ Grown store after ∧ trace.instant types now = some ts ∧
      after.traces.lookup (uuid store.drawn) = some (traceRow service ts trace) ∧
      TreeRows (trace.spans.getD []) (uuid store.drawn) spanIdMap after.spans := by
  obtain ⟨⟨⟨htransaction, hduration⟩, hinstant⟩, hspans⟩ := by
    simpa only [IngestTraceDto.storable, Bool.and_eq_true, List.all_eq_true] using hstorable
  obtain ⟨ts, hts⟩ := Option.isSome_iff_exists.mp hinstant
  have hinsert := run_insertTrace types uuid service now htransaction hduration hts (hstore.freshTrace _ le_rfl)
  obtain ⟨table, hrun, hadded, htree⟩ := spansAdded types uuid hinj hstore hunique hspans
    (store.traces.insert (uuid store.drawn) (traceRow service ts trace))
    (store.drawn + 1 + (trace.spans.getD []).length)
  refine ⟨afterTrace uuid store (traceRow service ts trace) (trace.spans.getD []).length table, _, ts, ?_,
    hadded.sound hinj hstore _, hadded.grown hstore _, hts, AList.lookup_insert _, htree⟩
  rw [ingestTrace, run_bind_ok hinsert, run_bind_ok (run_drawSpanIds uuid _ _)]
  exact hrun

-- A batch: each trace is stored with its tree, under an id of its own.
theorem run_ingestTraces (hinj : Function.Injective uuid) {store : IngestStore} (hstore : store.Sound uuid)
    {traces : List IngestTraceDto}
    (hunique : ∀ trace ∈ traces, ((trace.spans.getD []).map IngestSpanDto.spanId).Nodup)
    (hstorable : ∀ trace ∈ traces, trace.storable types now) :
    ∃ after traceIds, (ingestTraces types uuid service now traces).run store = .ok ((), after) ∧
      after.Sound uuid ∧ Grown store after ∧ traceIds.Nodup ∧ (∀ traceId ∈ traceIds, traceId ∉ store.traces) ∧
      List.Forall₂ (fun traceId trace =>
        (∃ ts, trace.instant types now = some ts ∧ after.traces.lookup traceId = some (traceRow service ts trace)) ∧
        ∃ spanIdMap, TreeRows (trace.spans.getD []) traceId spanIdMap after.spans) traceIds traces := by
  induction traces generalizing store with
  | nil =>
      exact ⟨store, [], rfl, hstore, .refl store, List.nodup_nil, fun _ h => absurd h List.not_mem_nil, .nil⟩
  | cons trace rest ih =>
      obtain ⟨hfirst, hrest⟩ := List.forall_mem_cons.mp hunique
      obtain ⟨hstorableFirst, hstorableRest⟩ := List.forall_mem_cons.mp hstorable
      obtain ⟨middle, spanIdMap, ts, hrun, hmiddle, hgrown, hts, hrow, htree⟩ :=
        run_ingestTrace types uuid service now hinj hstore hfirst hstorableFirst
      obtain ⟨after, traceIds, hrunRest, hafter, hgrownRest, hnodup, hnew, hall⟩ := ih hmiddle hrest hstorableRest
      have hin : uuid store.drawn ∈ middle.traces := Table.mem_of_lookup hrow
      refine ⟨after, uuid store.drawn :: traceIds, ?_, hafter, hgrown.trans hgrownRest, ?_, ?_, ?_⟩
      · rw [ingestTraces, run_bind_ok hrun]
        exact hrunRest
      · exact List.nodup_cons.mpr ⟨fun hmem => hnew _ hmem hin, hnodup⟩
      · intro traceId hmem
        rcases List.mem_cons.mp hmem with rfl | hmem
        · exact hstore.freshTrace _ le_rfl
        · intro hold
          obtain ⟨row, hlookup⟩ := Option.isSome_iff_exists.mp (AList.lookup_isSome.mpr hold)
          exact hnew traceId hmem (Table.mem_of_lookup (hgrown.traces traceId row hlookup))
      · exact .cons ⟨⟨ts, hts, hgrownRest.traces _ _ hrow⟩, spanIdMap, htree.grown hgrownRest hin⟩ hall

theorem TreeRows.traceStored {trace : IngestTraceDto} {traceId : Uuid} {spanIdMap : List (String × Uuid)}
    {store : IngestStore} (hrow : ∃ ts, trace.instant types now = some ts ∧
      store.traces.lookup traceId = some (traceRow service ts trace))
    (h : TreeRows (trace.spans.getD []) traceId spanIdMap store.spans) :
    TraceStored types service now trace traceId store where
  row := hrow
  tree := by
    obtain ⟨ids, hids⟩ := h.relIso
    exact ⟨ids, fun span => ⟨_, hids span, rfl, rfl, rfl, rfl, h.root_iff span.1⟩⟩
  inside _ _ _ := h.inside

section Refusals

variable {α β : Type}

def Raises (tx : IngestM α) : Prop := ∀ store, ∃ error, tx.run store = .error error

theorem raises_check (message : String) : Raises (check false message) := fun _ => ⟨_, rfl⟩

variable {tx : IngestM α} {next : α → IngestM β}

theorem Raises.bind (h : Raises tx) : Raises (tx >>= next) :=
  fun store => (h store).imp fun _ herror => run_bind_error herror

theorem Raises.after (h : ∀ value, Raises (next value)) : Raises (tx >>= next) := by
  intro store
  cases hrun : tx.run store with
  | error error => exact ⟨error, run_bind_error hrun⟩
  | ok pair => exact (h pair.1 pair.2).imp fun _ herror => (run_bind_ok hrun).trans herror

-- A check that passes, and then something that raises if the rest of the condition fails.
theorem Raises.check {taken rest : Bool} {message : String} {next : IngestM β} (h : rest = false → Raises next)
    (hfails : (taken && rest) = false) : Raises (check taken message >>= fun _ => next) := by
  cases taken with
  | false => exact (raises_check message).bind
  | true => exact .after fun _ => h hfails

end Refusals

theorem raises_insertSpan {traceId id : Uuid} {spanIdMap : List (String × Uuid)} {span : IngestSpanDto}
    (h : span.storable types = false) : Raises (insertSpan types id (spanRow traceId spanIdMap span)) := by
  rw [IngestSpanDto.storable, Bool.and_assoc, Bool.and_assoc] at h
  refine .check (fun h => .check (fun h => .check (fun h => ?_) h) h) h
  have hjsonb : Raises (castJsonb types (span.attributes.getD "\x7b\x7d")) := by
    rw [castJsonb, h]
    exact raises_check _
  exact hjsonb.bind

theorem raises_insertSpans {traceId : Uuid} {spanIdMap : List (String × Uuid)} {spans : List IngestSpanDto}
    (h : spans.all (IngestSpanDto.storable types) = false) : Raises (insertSpans types traceId spanIdMap spans) := by
  induction spans with
  | nil => cases h
  | cons span rest ih =>
      unfold insertSpans
      cases mapGet spanIdMap span.spanId with
      | none => exact fun _ => ⟨_, rfl⟩
      | some id =>
          rw [List.all_cons] at h
          cases hspan : span.storable types with
          | false => exact (raises_insertSpan types hspan).bind
          | true => exact .after fun _ => ih (by rwa [hspan] at h)

theorem raises_ingestTrace {trace : IngestTraceDto} (h : trace.storable types now = false) :
    Raises (ingestTrace types uuid service now trace) := by
  rw [IngestTraceDto.storable] at h
  cases hspans : (trace.spans.getD []).all (IngestSpanDto.storable types) with
  | false => exact .after fun _ => .after fun _ => raises_insertSpans types hspans
  | true =>
      rw [hspans, Bool.and_true, Bool.and_assoc] at h
      refine Raises.bind (.check (fun h => .check (fun h => ?_) h) h)
      rw [Option.isSome_eq_false_iff, Option.isNone_iff_eq_none] at h
      rw [h]
      exact fun _ => ⟨_, rfl⟩

theorem raises_ingestTraces {traces : List IngestTraceDto} (h : ∃ trace ∈ traces, trace.storable types now = false) :
    Raises (ingestTraces types uuid service now traces) := by
  induction traces with
  | nil => exact absurd h (by simp)
  | cons trace rest ih =>
      unfold ingestTraces
      obtain ⟨bad, hmem, hbad⟩ := h
      rcases List.mem_cons.mp hmem with rfl | hmem
      · exact (raises_ingestTrace types uuid service now hbad).bind
      · exact .after fun _ => ih ⟨bad, hmem, hbad⟩

-- The span trees of a batch survive its ingestion if the columns take all of its values, and
-- otherwise none of it is stored.
theorem ingestTraces_trees (hinj : Function.Injective uuid) {store : IngestStore} (hstore : store.Sound uuid)
    {traces : List IngestTraceDto}
    (hunique : ∀ trace ∈ traces, ((trace.spans.getD []).map IngestSpanDto.spanId).Nodup) :
    ((∀ trace ∈ traces, trace.storable types now) →
      ∃ traceIds after, (ingestTraces types uuid service now traces).run store = .ok ((), after) ∧
        traceIds.Nodup ∧ (∀ traceId ∈ traceIds, traceId ∉ store.traces) ∧ Grown store after ∧
        after.Sound uuid ∧
        List.Forall₂ (fun traceId trace => TraceStored types service now trace traceId after) traceIds traces) ∧
      ((∃ trace ∈ traces, ¬ trace.storable types now) →
        ∃ error, (ingestTraces types uuid service now traces).run store = .error error) := by
  constructor
  · intro hstorable
    obtain ⟨after, traceIds, hrun, hafter, hgrown, hnodup, hnew, hall⟩ :=
      run_ingestTraces types uuid service now hinj hstore hunique hstorable
    refine ⟨traceIds, after, hrun, hnodup, hnew, hgrown, hafter, hall.imp ?_⟩
    rintro traceId trace ⟨hrow, _, htree⟩
    exact htree.traceStored types service now hrow
  · rintro ⟨trace, hmem, hnot⟩
    exact raises_ingestTraces types uuid service now ⟨trace, hmem, Bool.eq_false_iff.mpr hnot⟩ store

def emptyStore : IngestStore := ⟨∅, ∅, 0⟩

theorem sound_emptyStore : emptyStore.Sound uuid where
  freshTrace _ _ := AList.notMem_empty _
  freshSpan _ _ := AList.notMem_empty _
  references id row h := by simp [emptyStore] at h

-- No date is read, and any text without an escape is taken.
def plainTypes : ColumnTypes where
  castTimestamptz _ := none
  takesJsonb text := !text.toList.contains '\\'

-- A child before its parent, the same ids in a second trace, and a parent that is not there.
def checkoutTraces : List IngestTraceDto :=
  [⟨"GET /checkout", 120, none, none, some
      [⟨"b", some "a", "db", some "client", 40, none⟩, ⟨"a", none, "handler", none, 110, none⟩]⟩,
    ⟨"GET /cart", 30, some "ok", none, some
      [⟨"a", some "c", "handler", none, 25, none⟩, ⟨"b", some "b", "cache", none, 5, none⟩]⟩]

theorem checkoutTraces_trees :
    ∃ traceIds after, (ingestTraces plainTypes id "shop" 1000 checkoutTraces).run emptyStore = .ok ((), after) ∧
      traceIds.Nodup ∧ (∀ traceId ∈ traceIds, traceId ∉ emptyStore.traces) ∧ Grown emptyStore after ∧
      after.Sound id ∧
      List.Forall₂ (fun traceId trace => TraceStored plainTypes "shop" 1000 trace traceId after)
        traceIds checkoutTraces :=
  (ingestTraces_trees plainTypes id "shop" 1000 Function.injective_id (sound_emptyStore id) (by decide)).1
    (by decide +kernel)

-- A span that took 25 days, with a well-formed trace before it: neither is stored.
def longSpan : List IngestTraceDto :=
  [⟨"GET /cart", 30, none, none, none⟩,
    ⟨"export", 2147483648, none, none, some [⟨"a", none, "dump", none, 2147483648, none⟩]⟩]

theorem longSpan_not_stored :
    ¬ ∀ (types : ColumnTypes) (uuid : Nat → Uuid) (service : String) (now : Nat) (store : IngestStore)
      (traces : List IngestTraceDto), Function.Injective uuid → store.Sound uuid →
      (∀ trace ∈ traces, ((trace.spans.getD []).map IngestSpanDto.spanId).Nodup) →
        ∃ traceIds, List.Forall₂ (fun traceId trace => TraceStored types service now trace traceId
          (commit (ingestTraces types uuid service now traces) store)) traceIds traces := by
  intro hclaim
  obtain ⟨traceIds, hstored⟩ := hclaim plainTypes id "shop" 1000 emptyStore longSpan Function.injective_id
    (sound_emptyStore id) (by decide)
  cases hstored with
  | cons hfirst _ =>
      obtain ⟨ts, -, hrow⟩ := hfirst.row
      cases hrow

end CloudOps.Monitoring.Apm
