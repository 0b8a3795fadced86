import CloudOps.ReadCommitted.InFlight
import CloudOps.Ticketing.TicketNumbering
import CloudOps.Ticketing.TriageWrites

namespace CloudOps.Ticketing.AutoTriage

open CloudOps.ReadCommitted CloudOps.Ticketing.TicketIntake

-- The ticket a creation has opened, and what loadTicket has returned of which ticket.
def creationOf : TriageResult → Option (Uuid × Ticket)
  | .created id ticket => some (id, ticket)
  | _ => none

def loadOf : TriageRequest → TriageResult → Option (Uuid × Option LoadedTicket)
  | .loadTicket ticketId, .loaded ticket => some (ticketId, ticket)
  | _, _ => none

def tagsAt (tenantId : Uuid) (table : TriageTable) (id : Uuid) : List String :=
  (ticketAt tenantId table id).elim [] Ticket.tags

-- The tags a ticket is created with or add_tag actions have added to it. A creation
-- returns its ticket with those its rules have added.
def tagsGiven : TriageRequest → TriageResult → List (Uuid × String)
  | .create dto, .created id ticket => (dto.tags.getD [] ++ ticket.tags).map fun tag => (id, tag)
  | .applyScenario ticketId values, .tagged _ => (tagsOf values).map fun tag => (ticketId, tag)
  | .updateThenRules ticketId values, .tagged _ => (tagsOf values).map fun tag => (ticketId, tag)
  | _, _ => []

-- Where the creation has committed, loadTicket returns its ticket.
def SeesTicket (world : TriageWorld) : Prop :=
  ∀ done ∈ world.returned, ∀ made ∈ world.returned, made.call.tenantId = done.call.tenantId →
    ∀ load ∈ loadOf done.call.request done.value, ∀ creation ∈ creationOf made.value, load.1 = creation.1 →
      load.2.map LoadedTicket.subject = some creation.2.subject

-- Every tag given in what has committed is on its ticket.
def LosesNoTag (world : TriageWorld) : Prop :=
  ∀ done ∈ world.returned, ∀ given ∈ tagsGiven done.call.request done.value,
    given.2 ∈ tagsAt done.call.tenantId world.committed given.1

instance : DecidablePred SeesTicket := fun world => inferInstanceAs (Decidable (∀ done ∈ world.returned, _))

instance : DecidablePred LosesNoTag := fun world => inferInstanceAs (Decidable (∀ done ∈ world.returned, _))

-- The SELECT of loadTicket, of a ticket whose creation has not committed.
def loadsTooEarly (db : TriageDb) : TriageEvent → Bool
  | .exec tid .. => (db.active.lookup tid).any fun txn =>
      match txn.call.request with
      | .loadTicket ticketId => (ticketAt txn.call.tenantId db.world.committed ticketId).isNone
      | _ => false
  | .begin .. | .commit _ | .rollback _ | .tick _ => false

-- The suggestion has tags, and not all that are on the ticket by now.
def replacesTags (runtime : Runtime) (committed : TriageTable) (call : TriageCall) : Bool :=
  match call.request with
  | .applySuggestion ticketId raw allowlists =>
      let tags := (HelpDesk.parseSuggestion runtime raw allowlists).tags
      !tags.isEmpty && (tagsAt call.tenantId committed ticketId).any fun tag => !tags.contains tag
  | _ => false

def TriageInTime (runtime : Runtime) (db : TriageDb) (event : TriageEvent) : Prop :=
  loadsTooEarly db event = false ∧
    CommitMeets (fun world call _ _ => replacesTags runtime world.committed call = false) db event

instance (runtime : Runtime) (db : TriageDb) : DecidablePred (TriageInTime runtime db) := fun event =>
  inferInstanceAs (Decidable (_ ∧ CommitMeets (fun world call _ _ =>
    replacesTags runtime world.committed call = false) db event))

section Commits

variable {env : Environment} {runtime : Runtime} {tenantId id : Uuid} {call : TriageCall} {value : TriageResult}
  {before after : TriageTable}

variable (runtime) in
-- The tags an applied suggestion may put in the place of those of its ticket.
def replacing (call : TriageCall) (tenantId id : Uuid) : List String :=
  match call.request with
  | .applySuggestion ticketId raw allowlists =>
      if tenantId = call.tenantId ∧ id = ticketId then (HelpDesk.parseSuggestion runtime raw allowlists).tags
      else []
  | _ => []

-- What a transaction has returned of its ticket is still there.
structure Stands (call : TriageCall) (value : TriageResult) (table : TriageTable) : Prop where
  creation : ∀ creation ∈ creationOf value, ∃ row,
    ticketAt call.tenantId table creation.1 = some row ∧ Keeps [] creation.2 row
  tags : ∀ given ∈ tagsGiven call.request value, given.2 ∈ tagsAt call.tenantId table given.1

def LoadStands (call : TriageCall) (value : TriageResult) (table : TriageTable) : Prop :=
  ∀ load ∈ loadOf call.request value, ∃ loaded row, load.2 = some loaded ∧
    ticketAt call.tenantId table load.1 = some row ∧ loaded.subject = row.subject

theorem mem_tagsAt {tag : String} {table : TriageTable} :
    tag ∈ tagsAt tenantId table id ↔ ∃ row, ticketAt tenantId table id = some row ∧ tag ∈ row.tags := by
  unfold tagsAt
  cases ticketAt tenantId table id <;> simp

theorem loadOf_request {request : TriageRequest} {load : Uuid × Option LoadedTicket}
    (h : load ∈ loadOf request value) : request = .loadTicket load.1 := by
  unfold loadOf at h
  split at h
  · obtain rfl := Option.some.inj h
    rfl
  · cases h

theorem Stands.onward (h : Stands call value before) (honward : Onward nothing before after) :
    Stands call value after := by
  refine ⟨fun creation hcreation => ?_, fun given hgiven => ?_⟩
  · obtain ⟨row, hrow, hkeeps⟩ := h.creation creation hcreation
    obtain ⟨later, hlater, hmore⟩ := honward _ _ row hrow
    exact ⟨later, hlater, hkeeps.trans hmore⟩
  · obtain ⟨row, hrow, htag⟩ := mem_tagsAt.mp (h.tags given hgiven)
    obtain ⟨later, hlater, hmore⟩ := honward _ _ row hrow
    exact mem_tagsAt.mpr ⟨later, hlater, hmore.mem htag⟩

theorem LoadStands.onward (h : LoadStands call value before) (honward : Onward nothing before after) :
    LoadStands call value after := by
  intro load hload
  obtain ⟨loaded, row, hloaded, hrow, hsubject⟩ := h load hload
  obtain ⟨later, hlater, hmore⟩ := honward _ _ row hrow
  exact ⟨loaded, later, hloaded, hlater, hsubject.trans hmore.subject.symm⟩

-- Where the suggestion replaces no tags, nothing is lost.
theorem Onward.nothing_replaced (h : Onward (replacing runtime call) before after)
    (hnone : replacesTags runtime before call = false) : Onward nothing before after := by
  intro tenantId id ticket hticket
  obtain ⟨later, hlater, hkeeps⟩ := h tenantId id ticket hticket
  refine ⟨later, hlater, hkeeps.subject, ?_⟩
  rcases hkeeps.tags with hkept | ⟨hne, hreplaced⟩
  · exact .inl hkept
  · unfold replacing at hne hreplaced
    unfold replacesTags at hnone
    split at hne
    · rename_i ticketId raw allowlists hrequest
      rw [hrequest] at hnone hreplaced
      dsimp only at hnone hreplaced
      split at hne
      · rename_i hsame
        obtain ⟨rfl, rfl⟩ := hsame
        rw [if_pos ⟨rfl, rfl⟩] at hreplaced
        have hall : ∀ tag ∈ tagsAt call.tenantId before id,
            tag ∈ (HelpDesk.parseSuggestion runtime raw allowlists).tags := by
          simpa [List.isEmpty_iff, hne] using hnone
        exact .inl fun tag htag => hreplaced (hall tag (mem_tagsAt.mpr ⟨ticket, hticket, htag⟩))
      · exact absurd rfl hne
    · exact absurd rfl hne

theorem Stands.of_none (hcreation : creationOf value = none) (htags : tagsGiven call.request value = [])
    (table : TriageTable) : Stands call value table := by
  refine ⟨?_, ?_⟩
  · rw [hcreation]
    exact fun _ hnone => nomatch hnone
  · rw [htags]
    exact fun _ hnone => nomatch hnone

theorem Stands.of_tagged {values : List String} {ticket row : Ticket}
    (hrow : ticketAt call.tenantId after id = some row) (hkeeps : Keeps [] ticket row)
    (htags : tagsOf values ⊆ ticket.tags)
    (hgiven : tagsGiven call.request (.tagged ticket) = (tagsOf values).map fun tag => (id, tag)) :
    Stands call (.tagged ticket) after := by
  refine ⟨?_, ?_⟩
  · intro creation hnone
    cases hnone
  · rw [hgiven]
    intro given hmem
    obtain ⟨tag, htag, rfl⟩ := List.mem_map.mp hmem
    exact mem_tagsAt.mpr ⟨row, hrow, hkeeps.mem (htags htag)⟩

theorem Stands.of_created {dto : CreateTicketDto} {ticket row : Ticket}
    (hrequest : call.request = .create dto) (hrow : ticketAt call.tenantId after id = some row)
    (hkeeps : Keeps [] ticket row) (htags : dto.tags.getD [] ⊆ ticket.tags) :
    Stands call (.created id ticket) after := by
  refine ⟨?_, ?_⟩
  · rintro _ ⟨⟩
    exact ⟨row, hrow, hkeeps⟩
  · rw [hrequest]
    intro given hmem
    obtain ⟨tag, htag, rfl⟩ := List.mem_map.mp hmem
    have hreturned : tag ∈ ticket.tags := by
      rcases List.mem_append.mp htag with hcreated | hadded
      · exact htags hcreated
      · exact hadded
    exact mem_tagsAt.mpr ⟨row, hrow, hkeeps.mem hreturned⟩

end Commits

section Runs

variable (env : Environment) (runtime : Runtime)

def Finished (call : TriageCall) (world : TriageWorld) (writes : TriageTable) (value : TriageResult) : Prop :=
  Onward (replacing runtime call) world.committed (writes ∪ world.committed) ∧
    Stands call value (writes ∪ world.committed)

theorem wp_triage (inv : TriageWorld → Prop) (call : TriageCall) (world : TriageWorld) :
    ((triageService env runtime).body call world.clock).wp nothingLost inv (Finished runtime call) ∅ world := by
  obtain ⟨tenantId, reads, request⟩ := call
  have hgoes : (triageStages (replacing runtime ⟨tenantId, reads, request⟩) tenantId inv).Goes .started
      ((triageService env runtime).body ⟨tenantId, reads, request⟩ world.clock)
      fun value after => ∀ (world : TriageWorld) (writes : TriageTable),
        after.Holds tenantId world.committed writes →
          Stands ⟨tenantId, reads, request⟩ value (writes ∪ world.committed) := by
    cases request with
    | create dto =>
        refine .map ((goes_createTicket env reads dto world.clock).mono ?_)
        rintro made _ ⟨rfl, htags⟩ later writes ⟨row, hrow, hkeeps⟩
        exact .of_created rfl hrow hkeeps htags
    | loadAllowlists ticketId order =>
        have hreads : (loadAllowlists env tenantId reads order).Changes
            (KeepsRow (replacing runtime ⟨tenantId, reads, .loadAllowlists ticketId order⟩)) := fun _ _ => trivial
        exact .map ((goes_rest hreads).mono fun _ _ _ _ _ _ => .of_none rfl rfl _)
    | loadTicket ticketId =>
        have hreads : (loadTicket tenantId ticketId).Changes
            (KeepsRow (replacing runtime ⟨tenantId, reads, .loadTicket ticketId⟩)) := fun _ => trivial
        exact .map ((goes_rest hreads).mono fun _ _ _ _ _ _ => .of_none rfl rfl _)
    | applySuggestion ticketId raw allowlists =>
        refine .map ((goes_rest (changes_applySuggestion env reads _ (if_pos ⟨rfl, rfl⟩))).mono ?_)
        exact fun _ _ _ _ _ _ => .of_none rfl rfl _
    | applyScenario ticketId values =>
        refine .map ((goes_applyScenario values world.clock).mono ?_)
        rintro ticket _ ⟨rfl, htags⟩ later writes ⟨row, hrow, hkeeps⟩
        exact .of_tagged hrow hkeeps htags rfl
    | updateThenRules ticketId values =>
        refine .map ((goes_updateThenRules values world.clock).mono ?_)
        rintro ticket _ ⟨rfl, htags⟩ later writes ⟨row, hrow, hkeeps⟩
        exact .of_tagged hrow hkeeps htags rfl
  refine (hgoes world ∅ (.start _ tenantId world)).mono ?_
  rintro later writes value - ⟨after, hresult, honward, hholds⟩
  exact ⟨honward, hresult later writes hholds⟩

def AllStands (world : TriageWorld) : Prop :=
  ∀ done ∈ world.returned,
    Stands done.call done.value world.committed ∧ LoadStands done.call done.value world.committed

variable {env runtime} in
theorem AllStands.publish {world : TriageWorld} {call : TriageCall} {begunOn writes : TriageTable}
    {startedAt : Nat} {value : TriageResult} (h : AllStands world) (hdone : Finished runtime call world writes value)
    (hnone : replacesTags runtime world.committed call = false) (hload : LoadStands call value world.committed) :
    AllStands (world.publish call begunOn startedAt writes value) ∧
      nothingLost world (world.publish call begunOn startedAt writes value) := by
  have honward := hdone.1.nothing_replaced hnone
  refine ⟨fun done hmem => ?_, honward⟩
  rcases List.mem_append.mp hmem with hold | hnew
  · exact ⟨(h done hold).1.onward honward, (h done hold).2.onward honward⟩
  · obtain rfl := List.mem_singleton.mp hnew
    exact ⟨hdone.2, hload.onward honward⟩

-- Everything returned stands, of commits that replace no tags and have loaded their ticket.
def triages : RelyGuarantee (triageService env runtime) where
  rely := nothingLost
  inv := AllStands
  post call _ _ := Finished runtime call
  condition world call _ value :=
    replacesTags runtime world.committed call = false ∧ LoadStands call value world.committed
  refl := nothingLost_refl
  trans _ _ _ h hnext := h.trans hnext
  tick world _ h := ⟨h, nothingLost_refl world⟩
  body call world _ := wp_triage env runtime _ call world
  commit _ _ _ _ _ _ h hdone hcondition := h.publish hdone hcondition.1 hcondition.2

-- A transaction of loadTicket is at its SELECT, or has its ticket.
def Loading (world : TriageWorld) (txn : TriageTxn) : Prop :=
  ∀ ticketId, txn.call.request = .loadTicket ticketId → txn.writes = ∅ ∧
    (txn.prog = (loadTicket txn.call.tenantId ticketId).map .loaded ∨
      ∃ value, txn.prog = .ret value ∧ LoadStands txn.call value world.committed)

variable {env : Environment} {runtime : Runtime} {world : TriageWorld} {txn : TriageTxn}

theorem Loading.onward (h : Loading world txn) {after : TriageWorld} (honward : nothingLost world after) :
    Loading after txn := by
  intro ticketId hrequest
  obtain ⟨hwrites, hselects | ⟨value, hprog, hstands⟩⟩ := h ticketId hrequest
  · exact ⟨hwrites, .inl hselects⟩
  · exact ⟨hwrites, .inr ⟨value, hprog, hstands.onward honward⟩⟩

-- The ticket that is there is among the rows of the SELECT.
theorem ticketIn_of_ticketAt {tenantId id : Uuid} {table : TriageTable} {ticket : Ticket}
    {rows : List (IntakeKey × IntakeRow)} (hticket : ticketAt tenantId table id = some ticket)
    (hrows : rows.Perm (table.rows.filter fun row => withMessages tenantId id row.1 row.2)) :
    ticketIn rows = some ticket := by
  obtain ⟨legacy, hlookup⟩ := ticketAt_eq_some.mp hticket
  have hmem : (.generated id, .ticket tenantId legacy ticket) ∈ rows := by
    refine hrows.mem_iff.mpr (List.mem_filter.mpr ⟨Table.mem_rows.mpr hlookup, ?_⟩)
    simp [withMessages, ticketWithId]
  have hsome : (ticketIn rows).isSome := List.findSome?_isSome_iff.mpr ⟨_, hmem, rfl⟩
  obtain ⟨found, hfound⟩ := Option.isSome_iff_exists.mp hsome
  have hsame : ticketAt tenantId table id = some found := by
    refine ticketAt_of_rows (fun row hrow => ?_) hfound
    obtain ⟨hstored, hmatches⟩ := List.mem_filter.mp (hrows.mem_iff.mp hrow)
    refine ⟨Table.mem_rows.mp hstored, fun hticket => ?_⟩
    obtain ⟨key, row⟩ := row
    rcases Bool.or_eq_true_iff.mp hmatches with hwith | hmessage
    · exact hwith
    · cases row with
      | message => cases hticket
      | ticket | counter | cursor | contact | attachment | activity => cases key <;> cases hmessage
  rw [hfound, ← hsame, hticket]

theorem Loading.becomes {db : TriageDb} {tid : Nat} {order : ScanOrder (IntakeKey × IntakeRow)} {newId : IntakeKey}
    {after : TriageTxn} (h : Loading db.world txn) (ht : db.active.lookup tid = some txn)
    (hintime : loadsTooEarly db (.exec tid order newId) = false)
    (hbecomes : txn.Becomes (triageService env runtime).conflict db.world order newId after) :
    Loading db.world after := by
  intro ticketId hrequest
  rw [hbecomes.same.1] at hrequest
  obtain ⟨hwrites, hselects | ⟨value, hprog, -⟩⟩ := h ticketId hrequest
  · have hcommitted : (ticketAt txn.call.tenantId db.world.committed ticketId).isSome := by
      simpa [loadsTooEarly, ht, hrequest, Option.isSome_iff_ne_none] using hintime
    obtain ⟨row, hrow⟩ := Option.isSome_iff_exists.mp hcommitted
    unfold Txn.Becomes at hbecomes
    rw [hselects] at hbecomes
    subst hbecomes
    refine ⟨hwrites, .inr ⟨_, rfl, ?_⟩⟩
    have hfound := ticketIn_of_ticketAt hrow (order.perm _)
    intro load hload
    dsimp only at hload ⊢
    rw [hrequest, hwrites, AList.empty_union, hfound] at hload
    obtain rfl := Option.some.inj hload
    exact ⟨_, row, rfl, hrow, rfl⟩
  · unfold Txn.Becomes at hbecomes
    simp only [hprog] at hbecomes

variable (env runtime) in
structure InTime (db : TriageDb) : Prop where
  holds : (triages env runtime).Holds db
  loading : InFlight Loading db

theorem InTime.commitMeets {db : TriageDb} (h : InTime env runtime db) {event : TriageEvent}
    (hevent : TriageInTime runtime db event) : CommitMeets (triages env runtime).condition db event := by
  cases event with
  | commit tid =>
      intro txn ht value hv
      refine ⟨hevent.2 txn ht value hv, ?_⟩
      intro load hload
      have hrequest := loadOf_request hload
      obtain ⟨-, hselects | ⟨returned, hprog, hstands⟩⟩ := h.loading tid txn ht load.1 hrequest
      · rw [hselects] at hv
        cases hv
      · rw [hprog] at hv
        obtain rfl := Option.some.inj hv
        exact hstands load hload
  | begin | exec | rollback | tick => trivial

theorem InTime.step {db : TriageDb} (h : InTime env runtime db) {event : TriageEvent}
    (hevent : TriageInTime runtime db event) : InTime env runtime (db.step (triageService env runtime) event) := by
  obtain ⟨hholds, honward⟩ := h.holds.step (h.commitMeets hevent)
  refine ⟨hholds, h.loading.step event ?_ ?_ ?_ fun _ _ hloading => hloading⟩
  case refine_1 =>
    rintro tid ⟨tenantId, reads, request⟩ - ticketId hrequest
    change request = .loadTicket ticketId at hrequest
    subst hrequest
    exact ⟨rfl, .inl rfl⟩
  case refine_2 =>
    rintro tid order newId txn after rfl ht hbecomes
    exact (h.loading tid txn ht).becomes ht hevent.1 hbecomes
  case refine_3 =>
    rintro tid txn value other otherTxn rfl ht hp - ho
    rw [RelyGuarantee.step_commit ht hp] at honward
    exact (h.loading other otherTxn ho).onward honward

-- Where every loadTicket reads after the creation's commit and no suggestion replaces a tag,
-- triage sees its ticket and no tag is lost, in every state of the run.
theorem triage_sees_and_loses_nothing (committed : TriageTable) (clock : Nat) (events : List TriageEvent)
    (hcondition : Runs.AllSteps (step env runtime) (TriageInTime runtime) (Db.start (World.start committed clock))
      events) :
    Runs.Always (step env runtime) (fun db => SeesTicket db.world ∧ LosesNoTag db.world)
      (Db.start (World.start committed clock)) events := by
  have hkeep : ∀ db event, InTime env runtime db → TriageInTime runtime db event →
      InTime env runtime (step env runtime db event) := by
    intro db event h hevent
    unfold step
    split
    · exact h.step hevent
    · exact h
  have hstart : InTime env runtime (Db.start (World.start committed clock)) :=
    ⟨.start (fun _ hnone => by cases hnone), .start _⟩
  refine (Runs.invariant hstart hkeep hcondition).mono fun db h => ⟨?_, ?_⟩
  · intro done hdone made hmade htenant load hload creation hcreation hsame
    obtain ⟨loaded, row, hloaded, hrow, hsubject⟩ := (h.holds.inv done hdone).2 load hload
    obtain ⟨kept, hkept, hkeeps⟩ := (h.holds.inv made hmade).1.creation creation hcreation
    -- both are about the one row under the id
    rw [htenant, ← hsame, hrow] at hkept
    obtain rfl := Option.some.inj hkept
    rw [hloaded, Option.map_some, hsubject, hkeeps.subject]
  · exact fun done hdone => (h.holds.inv done hdone).1.tags

end Runs

-- The model always answers with the tag printer.
def printerRuntime : Runtime :=
  { plainRuntime with parseObject := fun _ => some [("tags", .array [.string "printer"])] }

def triageCall (request : TriageRequest) : TriageCall := ⟨1, newTenant.toTicketStore, request⟩

def triageStatement (tid newId : Nat) : TriageEvent := .exec tid (.stored _) (.generated newId)

-- A ticket is opened with the tag printer, up to its commit.
def opensTicket : List TriageEvent :=
  [.begin 1 (triageCall (.create { requestOf "Printer on fire" with tags := some ["printer"] })),
    triageStatement 1 0, triageStatement 1 10, triageStatement 1 0, triageStatement 1 0, triageStatement 1 11,
    triageStatement 1 0]

-- Triage reads what the model may answer, and the ticket.
def loads : List TriageEvent :=
  [.begin 2 (triageCall (.loadAllowlists 11 (.stored _))), triageStatement 2 0, triageStatement 2 0, .commit 2,
    .begin 3 (triageCall (.loadTicket 11)), triageStatement 3 0, .commit 3]

def appliesTags : List TriageEvent :=
  [.begin 4 (triageCall (.applySuggestion 11 "\x7b\x7d"
      ⟨["low", "medium", "high", "urgent"], [], [], ["printer"]⟩)), triageStatement 4 0, .commit 4]

def addsVip : List TriageEvent :=
  [.begin 5 (triageCall (.applyScenario 11 ["vip"])), triageStatement 5 0, triageStatement 5 0, .commit 5]

theorem vipAfterTriage_loses_nothing :
    Runs.Always (step twoIds printerRuntime) (fun db => SeesTicket db.world ∧ LosesNoTag db.world)
      (Db.start (World.start ∅ 0)) (opensTicket ++ .commit 1 :: loads ++ appliesTags ++ addsVip) :=
  triage_sees_and_loses_nothing ∅ 0 _ (by decide +kernel)

-- Triage reads the ticket before the creation commits; or a scenario tags it while the
-- model answers.
theorem triage_misses_ticket_and_tag :
    ¬ Runs.Always (step twoIds printerRuntime) (fun db => SeesTicket db.world) (Db.start (World.start ∅ 0))
        (opensTicket ++ loads ++ [.commit 1]) ∧
      ¬ Runs.Always (step twoIds printerRuntime) (fun db => LosesNoTag db.world) (Db.start (World.start ∅ 0))
        (opensTicket ++ .commit 1 :: loads ++ addsVip ++ appliesTags) := by
  constructor
  · exact fun h => absurd h.last (by decide +kernel)
  · exact fun h => absurd h.last (by decide +kernel)

end CloudOps.Ticketing.AutoTriage
