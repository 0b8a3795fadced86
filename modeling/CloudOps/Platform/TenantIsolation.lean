import CloudOps.Platform.AdminRequests

namespace CloudOps.Platform.Admin

open CloudOps.RowSecurity
open CloudOps.Runs
open CloudOps.Ticketing (Patch Uuid)

-- A request that names the row of another tenant.
section Foreign

variable {tenantId newId id : Uuid} {now : Nat} {db : List AdminRow} {row : AdminRow}

def RefusedAlike (tenantId : Uuid) (prog : AdminProg) (db : List AdminRow) : Prop :=
  ∃ error, exec schema tenantId prog db = .error error ∧ exec schema tenantId prog (visible tenantId db) = .error error

-- The database serves what a database with the tenant's own rows would refuse.
def ServedAbroad (tenantId : Uuid) (prog : AdminProg) (db : List AdminRow) : Prop :=
  (∃ result, exec schema tenantId prog db = .ok result) ∧
    ∃ error, exec schema tenantId prog (visible tenantId db) = .error error

theorem violation_eq_none (hunique : ∀ index ∈ uniqueKeys, index.table ≠ row.table)
    (hkeys : ∀ key ∈ keysOf row.table, ∀ target, (row.columns key.column).reference = some target →
      present db key.target target = true) : violation? schema db row = none := by
  have hduplicated : duplicated schema db row = none :=
    List.find?_eq_none.mpr fun index hindex => by simp [hunique index hindex]
  have hdangling : dangling schema db row = none := by
    refine List.find?_eq_none.mpr fun key hkey => ?_
    by_cases htable : key.table = row.table
    · have hpresent := hkeys key (List.mem_filter.mpr ⟨hkey, by simpa using htable⟩)
      cases hreference : (row.columns key.column).reference with
      | none => simp [hreference]
      | some target => simp [hreference, hpresent target hreference]
    · simp [htable]
  rw [violation?, hduplicated, hdangling]
  rfl

theorem insertRow_eq_ok (hrequired : required? schema row = none) (hfresh : ∀ old ∈ db, old.id ≠ row.id)
    (hunique : ∀ index ∈ uniqueKeys, index.table ≠ row.table)
    (hkeys : ∀ key ∈ keysOf row.table, ∀ target, (row.columns key.column).reference = some target →
      present db key.target target = true) : insertRow schema row db = .ok (db ++ [row]) := by
  have htaken : taken? db row = none := by
    have habsent : present db row.table row.id = false := by
      by_contra hpresent
      obtain ⟨old, hold, -, hid⟩ := present_eq_true.mp ((Bool.not_eq_false _).mp hpresent)
      exact hfresh old hold hid
    simp [taken?, habsent]
  have hviolation : violation? schema (db ++ [row]) row = none := by
    refine violation_eq_none hunique fun key hkey target href => ?_
    obtain ⟨parent, hparent, hrest⟩ := present_eq_true.mp (hkeys key hkey target href)
    exact present_eq_true.mpr ⟨parent, List.mem_append_left _ hparent, hrest⟩
  simp [insertRow, hrequired, htaken, hviolation]

theorem existing_foreign {hits : AdminRow → Bool} {error : ServiceError} {next : AdminProg}
    (h : (∃ row ∈ visible tenantId db, hits row = true) →
      RefusedAlike tenantId next db ∨ ServedAbroad tenantId next db) :
    RefusedAlike tenantId (existing hits error next) db ∨ ServedAbroad tenantId (existing hits error next) db := by
  by_cases hany : (visible tenantId db).any hits = true
  · have hnext : ∀ rows, visible tenantId rows = visible tenantId db →
        exec schema tenantId (existing hits error next) rows = exec schema tenantId next rows := by
      intro rows hrows
      simp only [existing, exec, hrows, hany, if_true]
    simpa only [RefusedAlike, ServedAbroad, hnext db rfl, hnext _ visible_visible] using
      h (List.any_eq_true.mp hany)
  · refine .inl ⟨error, ?_, ?_⟩
    · simp only [existing, exec, hany, if_false, Bool.false_eq_true]
    · simp only [existing, exec, visible_visible, hany, if_false, Bool.false_eq_true]

theorem insertInto_foreign {table : String} {values defaults : List (String × SqlValue)}
    {failed : Violation → ServiceError} {key : ForeignKey} {target : Uuid} (hs : Sound schema db)
    (hok : insertRow schema ⟨table, newId, tenantId, columnsOf (values ++ defaults)⟩ db =
      .ok (db ++ [⟨table, newId, tenantId, columnsOf (values ++ defaults)⟩]))
    (hkey : key ∈ keysOf table) (href : (columnsOf (values ++ defaults) key.column).reference = some target)
    (htarget : key.target ≠ table) (h : ¬ Own tenantId db key.target target) :
    ServedAbroad tenantId (insertInto tenantId table newId values defaults failed created) db := by
  obtain ⟨hmem, htable⟩ := List.mem_filter.mp hkey
  have hfails : ∃ violation, insertRow schema ⟨table, newId, tenantId, columnsOf (values ++ defaults)⟩
      (visible tenantId db) = .error violation :=
    insertRow_foreign hs hmem (by simpa using htable) href htarget h
  obtain ⟨violation, hviolation⟩ := hfails
  refine ⟨?_, failed violation, ?_⟩
  · simp only [insertInto, exec, hok]
    exact ⟨_, rfl⟩
  · simp only [insertInto, exec, hviolation]

theorem createCannedResponse_foreign {dto : CannedResponsesService.CreateCannedResponseDto} {folderId : Uuid}
    (hs : Sound schema db) (hfresh : ∀ row ∈ db, row.id ≠ newId) (hfolder : dto.folderId = .value folderId)
    (h : ¬ Own tenantId db "canned_response_folders" folderId) :
    ServedAbroad tenantId (CannedResponsesService.create tenantId newId now dto) db := by
  have hunique : ∀ index ∈ uniqueKeys, index.table ≠ "canned_responses" := by decide
  have hkey : reference "canned_responses" "folder_id" "canned_response_folders" .setNull ∈
      keysOf "canned_responses" := by
    rw [keysOf_cannedResponses]
    exact List.mem_singleton.mpr rfl
  have href : (orNull .uuid dto.folderId).reference = some folderId := by
    rw [hfolder]
    rfl
  refine insertInto_foreign hs (insertRow_eq_ok rfl hfresh hunique ?_) hkey href (by decide) h
  rw [keysOf_cannedResponses]
  intro key hkey target htarget
  obtain rfl := List.mem_singleton.mp hkey
  obtain rfl := Option.some.inj (href.symm.trans htarget)
  exact (present_foreign hs h).1

theorem createDowntimeEvent_foreign {createdBy : Option Uuid} {dto : DowntimeEventsService.CreateDowntimeEventDto}
    {monitorId : Uuid} (hs : Sound schema db) (hfresh : ∀ row ∈ db, row.id ≠ newId)
    (hmonitor : dto.monitorId = .value monitorId) (h : ¬ Own tenantId db "monitors" monitorId) :
    RefusedAlike tenantId (DowntimeEventsService.create tenantId newId now createdBy dto) db ∨
      ServedAbroad tenantId (DowntimeEventsService.create tenantId newId now createdBy dto) db := by
  have hunique : ∀ index ∈ uniqueKeys, index.table ≠ "downtime_events" := by decide
  have hkey : reference "downtime_events" "monitor_id" "monitors" .setNull ∈ keysOf "downtime_events" := by
    rw [keysOf_downtimeEvents]
    exact List.mem_cons_of_mem _ (List.mem_singleton.mpr rfl)
  have href : (orNull .uuid dto.monitorId).reference = some monitorId := by
    rw [hmonitor]
    rfl
  refine existing_foreign ?_
  rintro ⟨resource, hresource, hisRow⟩
  refine .inr (insertInto_foreign hs (insertRow_eq_ok rfl hfresh hunique ?_) hkey href (by decide) h)
  rw [keysOf_downtimeEvents]
  refine List.forall_mem_cons.mpr ⟨?_, List.forall_mem_singleton.mpr ?_⟩
  · intro target htarget
    obtain rfl : dto.resourceId = target := Option.some.inj htarget
    simp only [isRow, Bool.and_eq_true, decide_eq_true_eq] at hisRow
    exact present_eq_true.mpr ⟨resource, (mem_visible.mp hresource).1, hisRow⟩
  · intro target htarget
    obtain rfl := Option.some.inj (href.symm.trans htarget)
    exact (present_foreign hs h).1

theorem update_foreign {table : String} {set : (String → SqlValue) → String → SqlValue}
    {failed : Violation → ServiceError} {key : ForeignKey} {target : Uuid} (hs : Sound schema db) (hkeyed : Keyed db)
    (hrow : row ∈ visible tenantId db) (hisRow : isRow table id row = true)
    (hunique : ∀ index ∈ uniqueKeys, index.table ≠ table) (hkeys : keysOf table = [key])
    (hset : (set row.columns key.column).reference = some target) (h : ¬ Own tenantId db key.target target) :
    RefusedAlike tenantId (.update (isRow table id) set failed .ret) db ∨
      ServedAbroad tenantId (.update (isRow table id) set failed .ret) db := by
  have hhits : ∀ other : AdminRow, isRow table id other = true → other.table = table ∧ other.id = id := by
    intro other hit
    simpa only [isRow, Bool.and_eq_true, decide_eq_true_eq] using hit
  have hkey : key ∈ foreignKeys ∧ key.table = table := by
    have hmem : key ∈ keysOf table := hkeys ▸ List.mem_singleton.mpr rfl
    simpa [keysOf] using hmem
  obtain ⟨hmem, htenant⟩ := mem_visible.mp hrow
  obtain ⟨rfl, -⟩ := hhits row hisRow
  have hit : targeted tenantId (isRow row.table id) row = true := by simp [targeted, htenant, hisRow]
  have hviolation : violation? schema (updated tenantId (isRow row.table id) set db) (written set row) = none := by
    refine violation_eq_none hunique fun other hother target' htarget => ?_
    change other ∈ keysOf row.table at hother
    rw [hkeys] at hother
    obtain rfl := List.mem_singleton.mp hother
    obtain rfl := Option.some.inj (hset.symm.trans htarget)
    rw [present_updated]
    exact (present_foreign hs h).1
  rcases updateRows_foreign hs hkeyed hhits hmem hit hkey.1 hkey.2 hset h hviolation with
    ⟨violation, hshared, hprivate⟩ | ⟨hshared, violation, hprivate⟩
  · exact .inl ⟨failed violation, by simp only [exec, hshared], by simp only [exec, hprivate]⟩
  · refine .inr ⟨?_, failed violation, by simp only [exec, hprivate]⟩
    simp only [exec, hshared]
    exact ⟨_, rfl⟩

-- The folder is among the fields, so there is a statement, and it sets the folder.
theorem updateCannedResponse_foreign {dto : CannedResponsesService.UpdateCannedResponseDto} {folderId : Uuid}
    (hs : Sound schema db) (hkeyed : Keyed db) (hfolder : dto.folderId = .value folderId)
    (h : ¬ Own tenantId db "canned_response_folders" folderId) :
    RefusedAlike tenantId (CannedResponsesService.update now id dto) db ∨
      ServedAbroad tenantId (CannedResponsesService.update now id dto) db := by
  have hunique : ∀ index ∈ uniqueKeys, index.table ≠ "canned_responses" := by decide
  have hsets : ∀ fields : List (String × Option SqlValue),
      (patched [] (fields ++ [("folder_id", assigned .uuid dto.folderId)])).sets.isEmpty = false := by
    intro fields
    simp [patched, assignGiven, hfolder, assigned, Assignments.assign]
  have hset : ∀ (fields : List (String × Option SqlValue)) (more : List SqlValue) (columns : String → SqlValue),
      (applySets ((patched [] (fields ++ [("folder_id", assigned .uuid dto.folderId)])).stamped ["updated_at"]).sets
        ((patched [] (fields ++ [("folder_id", assigned .uuid dto.folderId)])).params ++ more) now columns
        "folder_id").reference = some folderId := by
    intro fields more columns
    rw [applySets_patched]
    simp [applySets, SetClause.apply, assignFields, hfolder, assigned, SqlValue.reference]
  refine existing_foreign ?_
  rintro ⟨row, hrow, hisRow⟩
  have hnonempty := hsets [("title", assigned .text dto.title), ("body", assigned .text dto.body)]
  rw [List.cons_append, List.cons_append, List.nil_append] at hnonempty
  rw [patchById, hnonempty, if_neg Bool.false_ne_true, updateById_eq]
  exact update_foreign hs hkeyed hrow hisRow hunique keysOf_cannedResponses
    (hset [("title", assigned .text dto.title), ("body", assigned .text dto.body)] _ _) h

theorem foreign_prog {env : AdminEnvironment} {request : AdminRequest} (hs : Sound schema db) (hkeyed : Keyed db)
    (hfresh : request.Fresh db) (h : ¬ request.NamesOwn db) :
    RefusedAlike request.tenantId (request.prog env) db ∨ ServedAbroad request.tenantId (request.prog env) db := by
  have hnew : ∀ row ∈ db, row.id ≠ request.newId := fun row hrow => (hfresh row hrow).1
  obtain ⟨tenantId, now, newId, secondId, call⟩ := request
  cases call with
  | createCannedResponse dto =>
      simp only [AdminRequest.NamesOwn, not_forall] at h
      obtain ⟨folderId, hfolder, hforeign⟩ := h
      exact .inr (createCannedResponse_foreign hs hnew hfolder hforeign)
  | updateCannedResponse id dto =>
      simp only [AdminRequest.NamesOwn, not_forall] at h
      obtain ⟨folderId, hfolder, hforeign⟩ := h
      exact updateCannedResponse_foreign hs hkeyed hfolder hforeign
  | createDowntimeEvent createdBy dto =>
      simp only [AdminRequest.NamesOwn, not_forall] at h
      obtain ⟨monitorId, hmonitor, hforeign⟩ := h
      exact createDowntimeEvent_foreign hs hnew hmonitor hforeign
  | _ => exact absurd trivial h

end Foreign

-- The tenants' requests, one transaction after the other.
abbrev AdminState := Served Uuid Uuid SqlValue ServiceError (List AdminRow)

def Consistent (state : AdminState) : Prop := Sound schema state.db ∧ Keyed state.db

def serveAdmin (env : AdminEnvironment) (state : AdminState) (request : AdminRequest) : AdminState :=
  serve schema state (request.toRequest env)

def AdminRequest.Refused (env : AdminEnvironment) (db : List AdminRow) (request : AdminRequest) : Prop :=
  ∃ error, exec schema request.tenantId (request.prog env) db = .error error

section Runs

variable {env : AdminEnvironment} {state : AdminState} {request : AdminRequest}

theorem serveAdmin_own (hs : Sound schema state.db) (hfresh : request.Fresh state.db)
    (hown : request.NamesOwn state.db) : Sound schema (serveAdmin env state request).db ∧
      ∀ tenant, (serveAdmin env state request).of tenant =
        if request.tenantId = tenant then serveAdmin env (state.of tenant) request else state.of tenant := by
  have hkeeps : Keeps schema (request.toRequest env).tenant (request.toRequest env).prog state.db :=
    keeps_prog hs hfresh hown
  refine ⟨serve_sound hs hkeeps, fun tenant => ?_⟩
  split
  · rename_i htenant
    subst htenant
    exact serve_of_self hs hkeeps
  · rename_i htenant
    exact serve_of_other hs hkeeps (Ne.symm htenant)

theorem serveAdmin_refused (h : RefusedAlike request.tenantId (request.prog env) state.db) :
    (serveAdmin env state request).db = state.db ∧ ∀ tenant, (serveAdmin env state request).of tenant =
      if request.tenantId = tenant then serveAdmin env (state.of tenant) request else state.of tenant := by
  obtain ⟨error, hshared, hprivate⟩ := h
  have hserved : serveAdmin env state request =
      { state with answers := state.answers ++ [(request.tenantId, .error error)] } := by
    simp only [serveAdmin, serve, AdminRequest.toRequest, hshared]
  rw [hserved]
  refine ⟨rfl, fun tenant => ?_⟩
  split
  · rename_i htenant
    subst htenant
    simp only [serveAdmin, serve, AdminRequest.toRequest, Served.of, hprivate]
    simp
  · rename_i htenant
    simp [Served.of, htenant]

-- The tenant sees the difference: an answer instead of an error.
theorem serveAdmin_abroad (h : ServedAbroad request.tenantId (request.prog env) state.db) :
    (serveAdmin env state request).of request.tenantId ≠ serveAdmin env (state.of request.tenantId) request := by
  obtain ⟨⟨result, hshared⟩, error, hprivate⟩ := h
  intro heq
  have hanswers := congrArg Served.answers heq
  simp only [serveAdmin, serve, AdminRequest.toRequest, Served.of, hshared, hprivate] at hanswers
  simp at hanswers

theorem serveAdmin_keyed (hkeyed : Keyed state.db) : Keyed (serveAdmin env state request).db := by
  unfold serveAdmin serve
  cases h : exec schema (request.toRequest env).tenant (request.toRequest env).prog state.db with
  | error error => exact hkeyed
  | ok result => exact exec_keyed hkeyed h

-- The services keep the tenants apart, as if each had a database of its own, exactly when
-- no request is served that names the row of another tenant.
theorem private_databases_iff (start : AdminState) (requests : List AdminRequest) (hstart : Consistent start)
    (hfresh : AllSteps (serveAdmin env) (fun state request => request.Fresh state.db) start requests) :
    (∀ tenant served rest, requests = served ++ rest → (run (serveAdmin env) start served).of tenant =
      run (serveAdmin env) (start.of tenant) (served.filter fun request => request.tenantId = tenant)) ↔
    AllSteps (serveAdmin env) (fun state request => request.NamesOwn state.db ∨ request.Refused env state.db)
      start requests := by
  refine views_iff (fun tenant state => state.of tenant) AdminRequest.tenantId hstart ?_ ?_ hfresh
  · rintro state request ⟨hs, hkeyed⟩ hfresh hgood
    by_cases hown : request.NamesOwn state.db
    · obtain ⟨hs', hviews⟩ := serveAdmin_own hs hfresh hown
      exact ⟨⟨hs', serveAdmin_keyed hkeyed⟩, hviews⟩
    · obtain ⟨error, herror⟩ := hgood.resolve_left hown
      rcases foreign_prog hs hkeyed hfresh hown with hrefused | ⟨⟨result, hok⟩, -⟩
      · obtain ⟨hdb, hviews⟩ := serveAdmin_refused hrefused
        exact ⟨⟨hdb ▸ hs, hdb ▸ hkeyed⟩, hviews⟩
      · rw [herror] at hok
        cases hok
  · rintro state request ⟨hs, hkeyed⟩ hfresh hbad
    obtain ⟨hown, hserved⟩ := not_or.mp hbad
    rcases foreign_prog hs hkeyed hfresh hown with ⟨error, herror, -⟩ | habroad
    · exact absurd ⟨error, herror⟩ hserved
    · exact serveAdmin_abroad habroad

end Runs

-- Two tenants with a folder each, and a response in the first one's.
def sampleRequests : List AdminRequest := [
  ⟨1, 0, 10, 11, .createFolder ⟨"Greetings", .null⟩⟩,
  ⟨2, 0, 20, 21, .createFolder ⟨"Greetings", .null⟩⟩,
  ⟨1, 0, 12, 13, .createCannedResponse ⟨"Hello", "Hello there", .value 10⟩⟩]

def sampleEnvironment : AdminEnvironment where
  castUuid := fun _ => none
  before := fun _ _ => true

theorem private_databases_sample :
    (run (serveAdmin sampleEnvironment) ⟨[], []⟩ sampleRequests).of 1 = run (serveAdmin sampleEnvironment)
        (Served.of 1 ⟨[], []⟩) (sampleRequests.filter fun request => request.tenantId = 1) ∧
      (run (serveAdmin sampleEnvironment) ⟨[], []⟩ sampleRequests).of 2 = run (serveAdmin sampleEnvironment)
        (Served.of 2 ⟨[], []⟩) (sampleRequests.filter fun request => request.tenantId = 2) := by
  have hfresh : AllSteps (serveAdmin sampleEnvironment) (fun state request => request.Fresh state.db)
      ⟨[], []⟩ sampleRequests := ⟨nofun, by decide, by decide, trivial⟩
  have hgood : AllSteps (serveAdmin sampleEnvironment)
      (fun state request => request.NamesOwn state.db ∨ request.Refused sampleEnvironment state.db)
      ⟨[], []⟩ sampleRequests := by
    refine ⟨.inl trivial, .inl trivial, .inl ?_, trivial⟩
    intro folderId hfolder
    cases hfolder
    decide
  have hviews := (private_databases_iff ⟨[], []⟩ sampleRequests ⟨⟨nofun, nofun⟩, List.nodup_nil⟩ hfresh).mpr hgood
  have hall : sampleRequests = sampleRequests ++ [] := (List.append_nil _).symm
  exact ⟨hviews 1 _ _ hall, hviews 2 _ _ hall⟩

end CloudOps.Platform.Admin
