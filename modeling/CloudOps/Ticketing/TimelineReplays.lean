import CloudOps.Ticketing.SlaFollowsType
import CloudOps.Ticketing.Timeline

namespace CloudOps.Ticketing

open CloudOps.ReadCommitted CloudOps.Transaction CloudOps.ChangeLog
open TimeAutomation (TimeRule)

variable (env : Environment) (runtime : Runtime)

-- The condition holds of every action a rule takes on its candidates, in turn.
def CandidatesMeet (cond : Ticket → AutomationAction → Prop) (now : Nat) (rule : TimeRule) :
    List (Uuid × Ticket) → HelpDesk → Prop
  | [], _ => True
  | (id, ticket) :: rest, desk =>
      if rule.conditions.all (conditionMatches env ticket) then
        ActionsMeet env cond now id rule.actions ticket desk.toTicketStore ∧
          Ensures (onTickets (applyActions env now id rule.actions ticket)) desk fun _ after =>
            Ensures (HelpDesk.insertApplication rule.id id) after fun _ => CandidatesMeet cond now rule rest
      else CandidatesMeet cond now rule rest desk

-- The same of every rule of a sweep.
def SweepMeets (cond : Ticket → AutomationAction → Prop) (order : ScanOrder (Uuid × Ticket)) (now : Nat) :
    List TimeRule → HelpDesk → Prop
  | [], _ => True
  | rule :: rest, desk =>
      CandidatesMeet env cond now rule (order.apply (HelpDesk.candidates now rule desk)) desk ∧
        Ensures (HelpDesk.sweepRule env order now rule) desk fun _ => SweepMeets cond order now rest

def HelpDeskCall.Commits (desk : HelpDesk) : HelpDeskCall → Prop
  | tickets (.create dto newIds now) => Transaction.Commits (create env dto newIds now) desk.toTicketStore
  | tickets (.update id dto actorAgentId now) =>
      Transaction.Commits (update env id dto actorAgentId now) desk.toTicketStore
  | tickets (.merge primaryId sourceTicketIds now) =>
      Transaction.Commits (merge env primaryId sourceTicketIds now) desk.toTicketStore
  | applyScenario scenarioId ticketId now =>
      Transaction.Commits (HelpDesk.applyScenario env scenarioId ticketId now) desk
  | sweepTenant order now => Transaction.Commits (HelpDesk.sweepTenant env order now) desk
  | importTicket ticket context newIds =>
      Transaction.Commits (HelpDesk.importTicket runtime ticket context newIds) desk
  | triageTicket ticketId reply order =>
      Transaction.Commits (HelpDesk.triageTicket env runtime ticketId reply order) desk

-- Every reference is assigned by the id's own text, a merge finds the sources it
-- closes closed, and triage applies no priority and no type but the ticket's own.
def LogsChanges (desk : HelpDesk) : HelpDeskCall → Prop
  | .tickets (.create dto newIds now) => ∀ ticket store,
      (newTicket env dto newIds now).run desk.toTicketStore = .ok (ticket, store) →
      RulesMeet env (AssignsPlainly env) now newIds.ticketId (triggeredRules store .ticketCreated) ticket
        (putTicket newIds.ticketId ticket store)
  | .tickets (.update id dto actorAgentId now) => PlainRequest env dto ∧ ∀ key existing edits,
      EditsFor env id dto now desk.toTicketStore key existing edits → edits.sets ≠ [] →
      RulesMeet env (AssignsPlainly env) now key (triggeredRules desk.toTicketStore .ticketUpdated)
        (edits.updated now existing)
        (requested key (edits.updated now existing) actorAgentId edits.changes desk.toTicketStore)
  | .tickets (.merge primaryId sourceTicketIds _) => ∀ sourceId ∈ sourceTicketIds, sourceId ≠ primaryId →
      ∀ key source, env.castUuid sourceId = some key → desk.tickets.lookup key = some source →
      source.mergedIntoId = none → source.status = .closed
  | .applyScenario scenarioId ticketId now => ∀ scenarioKey actions key ticket,
      env.castUuid scenarioId = some scenarioKey → desk.scenarios.lookup scenarioKey = some actions →
      env.castUuid ticketId = some key → desk.tickets.lookup key = some ticket →
      ActionsMeet env (AssignsPlainly env) now key actions ticket desk.toTicketStore
  | .sweepTenant order now => SweepMeets env (AssignsPlainly env) order now desk.timeRules desk
  | .triageTicket ticketId reply order => ∀ row suggestion priority newTypeId,
      Applies env runtime desk ticketId reply order row suggestion →
      Suggested env desk.toTicketStore suggestion priority newTypeId →
      priority.getD row.priority = row.priority ∧ newTypeId.or row.ticketTypeId = row.ticketTypeId
  | .importTicket .. => True

-- The desk, and beside it the rows that creations have inserted, as they were then.
structure Recorded where
  desk : HelpDesk
  inserted : Table Uuid Ticket

-- The row of a creation that commits, before the rules see it.
def insertedRow (desk : HelpDesk) : HelpDeskCall → Option (Uuid × Ticket)
  | .tickets (.create dto newIds now) =>
      match (create env dto newIds now).run desk.toTicketStore,
        (newTicket env dto newIds now).run desk.toTicketStore with
      | .ok _, .ok (ticket, _) => some (newIds.ticketId, ticket)
      | _, _ => none
  | .tickets _ | .applyScenario .. | .sweepTenant .. | .importTicket .. | .triageTicket .. => none

def Recorded.step (state : Recorded) (call : LocalCall) : Recorded where
  desk := state.desk.stepLocal env runtime call
  inserted :=
    match insertedRow env state.desk call.1 with
    | some (id, row) => state.inserted.insert id row
    | none => state.inserted

-- The activities of every ticket lead, column by column, from the row it was inserted
-- with to the one it has.
def TimelineReplays (state : Recorded) : Prop :=
  ∀ id row, state.desk.tickets.lookup id = some row → ∃ first, state.inserted.lookup id = some first ∧
    ∀ field : TrackedField, Replays (field.read env first) (changesOf state.desk.activities id field)
      (field.read env row)

variable {env} {inserted : Table Uuid Ticket}

theorem create_logged {dto : CreateTicketDto} {newIds : GeneratedIds} {now : Nat} {desk : HelpDesk}
    (h : Logged env inserted desk.toTicketStore)
    (hlogs : LogsChanges env runtime desk (.tickets (.create dto newIds now))) :
    Ensures (create env dto newIds now) desk.toTicketStore fun _ after => ∃ ticket middle,
      (newTicket env dto newIds now).run desk.toTicketStore = .ok (ticket, middle) ∧
      Logged env (inserted.insert newIds.ticketId ticket) after := by
  refine (create_writes env dto newIds now desk.toTicketStore).mono ?_
  rintro result after ⟨ticket, middle, hticket, hfree, hrules⟩
  obtain ⟨hagree, -⟩ := newTicket_ensures env dto newIds now desk.toTicketStore ticket middle hticket
  have hmiddle : Logged env inserted middle :=
    h.congr (hagree.comp TicketStore.tickets) (hagree.comp TicketStore.activities)
  have hinserted : AtTicket env (inserted.insert newIds.ticketId ticket) newIds.ticketId
      (putTicket newIds.ticketId ticket middle) ticket (putTicket newIds.ticketId ticket middle) := by
    refine ⟨hmiddle.insert hfree ticket, ?_, fun _ _ => rfl⟩
    rw [putTicket, Table.lookup_insert_eq, if_pos rfl]
  have hkeep := atTicket_actions env (inserted.insert newIds.ticketId ticket) newIds.ticketId
    (putTicket newIds.ticketId ticket middle) now
  have hafter := hkeep.runRules .ticketCreated ticket _ (hlogs ticket middle hticket) hinserted result after hrules
  exact ⟨ticket, middle, hticket, hafter.logged⟩

theorem update_logged {id : String} {dto : UpdateTicketDto} {actorAgentId : Option Uuid} {now : Nat}
    {desk : HelpDesk} (h : Logged env inserted desk.toTicketStore)
    (hlogs : LogsChanges env runtime desk (.tickets (.update id dto actorAgentId now))) :
    Ensures (update env id dto actorAgentId now) desk.toTicketStore fun _ after => Logged env inserted after := by
  refine (update_writes env id dto actorAgentId now desk.toTicketStore).mono ?_
  rintro outcome after ⟨key, existing, edits, hedits, ⟨-, rfl⟩ | ⟨hsets, hrules⟩⟩
  · exact h
  · have hupdated := updated_logs hedits hlogs.1 actorAgentId
    have hrequested : AtTicket env inserted key
        (requested key (edits.updated now existing) actorAgentId edits.changes desk.toTicketStore)
        (edits.updated now existing)
        (requested key (edits.updated now existing) actorAgentId edits.changes desk.toTicketStore) := by
      refine ⟨h.write hedits.row rfl rfl hupdated, ?_, fun _ _ => rfl⟩
      rw [requested, Table.lookup_insert_eq, if_pos rfl]
    have hmeet := hlogs.2 key existing edits hedits hsets
    exact ((atTicket_actions env inserted key _ now).runRules .ticketUpdated _ _ hmeet hrequested
      outcome.result after hrules).logged

-- The sources still to come are closed, if they are merged into no ticket.
def SourcesClosed (env : Environment) (primaryId : String) (sourceTicketIds : List String)
    (store : TicketStore) : Prop :=
  ∀ sourceId ∈ sourceTicketIds, sourceId ≠ primaryId → ∀ key source, env.castUuid sourceId = some key →
    store.tickets.lookup key = some source → source.mergedIntoId = none → source.status = .closed

theorem mergedRow_logs {source : Ticket} (hclosed : source.status = .closed) (primaryKey now : Nat) (id : Uuid) :
    Logs env id source (mergedRow primaryKey now source) [] := by
  refine Logs.none (fun field => ?_) id
  cases field with
  | ticketTypeId => rfl
  | assignable field =>
      cases field with
      | status => simp [TrackedField.read, ActionField.read, mergedRow, hclosed]
      | priority | groupId | agentId | platform => rfl

theorem mergeKeeps_logged (primaryId : String) (primaryKey : Uuid) (primaryNumber now : Nat) :
    MergeKeeps env primaryId primaryKey primaryNumber now fun rest store =>
      Logged env inserted store ∧ SourcesClosed env primaryId rest store := by
  refine ⟨?_, ?_, ?_⟩
  · exact fun rest store h => ⟨h.1, fun other hother => h.2 other (List.mem_cons_of_mem _ hother)⟩
  · intro sourceId rest store key source h _ _ _ _
    exact ⟨h.1, fun other hother => h.2 other (List.mem_cons_of_mem _ hother)⟩
  · intro sourceId rest store key source h hother hkey hl hunmerged
    have hclosed := h.2 sourceId List.mem_cons_self hother key source hkey hl hunmerged
    refine ⟨h.1.write hl rfl (List.append_nil _).symm (mergedRow_logs hclosed primaryKey now key), ?_⟩
    intro other hmem hne otherKey row hcast hrow hnone
    simp only [afterMerge, Table.lookup_insert_eq] at hrow
    by_cases hsame : otherKey = key
    · rw [if_pos hsame] at hrow
      obtain rfl := Option.some.inj hrow
      cases hnone
    · rw [if_neg hsame] at hrow
      exact h.2 other (List.mem_cons_of_mem _ hmem) hne otherKey row hcast hrow hnone

theorem merge_logged {primaryId : String} {sourceTicketIds : List String} {now : Nat} {desk : HelpDesk}
    (h : Logged env inserted desk.toTicketStore)
    (hlogs : LogsChanges env runtime desk (.tickets (.merge primaryId sourceTicketIds now))) :
    Ensures (merge env primaryId sourceTicketIds now) desk.toTicketStore
      fun _ after => Logged env inserted after := by
  apply merge_ensures primaryId sourceTicketIds now desk.toTicketStore
  · exact fun primaryKey primary _ _ => ⟨mergeKeeps_logged primaryId primaryKey _ now, h, hlogs⟩
  · exact fun store hstore => hstore.1
  · exact fun store _ _ hstore => hstore.congr rfl rfl

theorem applyScenario_logged {scenarioId ticketId : String} {now : Nat} {desk : HelpDesk}
    (h : Logged env inserted desk.toTicketStore)
    (hlogs : LogsChanges env runtime desk (.applyScenario scenarioId ticketId now)) :
    Ensures (HelpDesk.applyScenario env scenarioId ticketId now) desk
      fun _ after => Logged env inserted after.toTicketStore := by
  refine (applyScenario_writes scenarioId ticketId now desk).mono ?_
  rintro row after ⟨scenarioKey, actions, key, ticket, hscenario, hactions, hkey, hl, hrun⟩
  have hmeet := hlogs scenarioKey actions key ticket hscenario hactions hkey hl
  have hstart : AtTicket env inserted key desk.toTicketStore ticket desk.toTicketStore :=
    ⟨h, hl, fun _ _ => rfl⟩
  have hkeep := atTicket_actions env inserted key desk.toTicketStore now
  exact (hkeep.applyActions actions ticket _ hmeet hstart row after.toTicketStore hrun).logged

-- The candidates of a rule are rows of the desk, each once.
structure Rows (candidates : List (Uuid × Ticket)) (desk : HelpDesk) : Prop where
  stored : ∀ pair ∈ candidates, desk.tickets.lookup pair.1 = some pair.2
  nodup : (candidates.map Prod.fst).Nodup

theorem rows_candidates (order : ScanOrder (Uuid × Ticket)) (now : Nat) (rule : TimeRule) (desk : HelpDesk) :
    Rows (order.apply (HelpDesk.candidates now rule desk)) desk := by
  have hperm := order.perm (HelpDesk.candidates now rule desk)
  refine ⟨fun pair hpair => ?_, ?_⟩
  · exact Table.mem_rows.mp (List.mem_of_mem_filter (hperm.mem_iff.mp hpair))
  · exact Table.nodup_ids_of_perm hperm

theorem insertApplication_store (ruleId ticketId : Uuid) (desk : HelpDesk) :
    Ensures (HelpDesk.insertApplication ruleId ticketId) desk fun _ after =>
      after.toTicketStore = desk.toTicketStore := by
  apply Ensures.modify
  split
  · rfl
  · rfl

theorem sweepCandidates_logged (now : Nat) (rule : TimeRule) (candidates : List (Uuid × Ticket))
    (appliedCount : Nat) (desk : HelpDesk) (h : Logged env inserted desk.toTicketStore)
    (hrows : Rows candidates desk)
    (hmeet : CandidatesMeet env (AssignsPlainly env) now rule candidates desk) :
    Ensures (HelpDesk.sweepCandidates env now rule candidates appliedCount) desk
      fun _ after => Logged env inserted after.toTicketStore := by
  induction candidates generalizing appliedCount desk with
  | nil => exact .pure h
  | cons candidate rest ih =>
      obtain ⟨id, ticket⟩ := candidate
      obtain ⟨hid, hrest⟩ := List.nodup_cons.mp hrows.nodup
      unfold CandidatesMeet at hmeet
      unfold HelpDesk.sweepCandidates
      split
      · rename_i hmatches
        rw [if_pos hmatches] at hmeet
        have hstart : AtTicket env inserted id desk.toTicketStore ticket desk.toTicketStore :=
          ⟨h, hrows.stored (id, ticket) List.mem_cons_self, fun _ _ => rfl⟩
        have hactions : Ensures (onTickets (applyActions env now id rule.actions ticket)) desk
            fun row after => AtTicket env inserted id desk.toTicketStore row after.toTicketStore :=
          onTickets_ensures ((atTicket_actions env inserted id desk.toTicketStore now).applyActions
            rule.actions ticket _ hmeet.1 hstart)
        refine (Ensures.ran _ _).bind fun row middle hrun => ?_
        have hmiddle := hactions row middle hrun
        have hmeetRest := hmeet.2 row middle hrun
        refine (Ensures.ran _ _).bind fun _ after hinserted => ?_
        have hstore := insertApplication_store rule.id id middle () after hinserted
        refine ih (appliedCount + 1) after (hstore ▸ hmiddle.logged) ⟨?_, hrest⟩ (hmeetRest () after hinserted)
        intro pair hpair
        have hother : pair.1 ≠ id := fun he => hid (List.mem_map.mpr ⟨pair, hpair, he⟩)
        have hfound := hrows.stored pair (List.mem_cons_of_mem _ hpair)
        rw [hstore, hmiddle.others pair.1 hother]
        exact hfound
      · rename_i hmatches
        rw [if_neg hmatches] at hmeet
        exact ih appliedCount desk h ⟨fun pair hpair => hrows.stored pair (List.mem_cons_of_mem _ hpair), hrest⟩
          hmeet

theorem sweepRules_logged (order : ScanOrder (Uuid × Ticket)) (now : Nat) (rules : List TimeRule)
    (appliedCount : Nat) (desk : HelpDesk) (h : Logged env inserted desk.toTicketStore)
    (hmeet : SweepMeets env (AssignsPlainly env) order now rules desk) :
    Ensures (HelpDesk.sweepRules env order now rules appliedCount) desk
      fun _ after => Logged env inserted after.toTicketStore := by
  induction rules generalizing appliedCount desk with
  | nil => exact .pure h
  | cons rule rest ih =>
      have hrule : Ensures (HelpDesk.sweepRule env order now rule) desk
          fun _ after => Logged env inserted after.toTicketStore :=
        .get_bind (sweepCandidates_logged now rule _ 0 desk h (rows_candidates order now rule desk) hmeet.1)
      refine (Ensures.ran _ _).bind fun applied after hrun => ?_
      exact ih (appliedCount + applied) after (hrule applied after hrun) (hmeet.2 applied after hrun)

theorem triageTicket_logged {ticketId : Uuid} {reply : AiReply} {order : ScanOrder String} {desk : HelpDesk}
    (h : Logged env inserted desk.toTicketStore)
    (hlogs : LogsChanges env runtime desk (.triageTicket ticketId reply order)) :
    Ensures (HelpDesk.triageTicket env runtime ticketId reply order) desk
      fun _ after => Logged env inserted after.toTicketStore := by
  refine (triageTicket_ensures runtime ticketId reply order desk).mono fun _ after hwrite => ?_
  generalize after.toTicketStore = store at hwrite
  cases hwrite with
  | kept hnot => exact h
  | applied row suggestion priority newTypeId store happlies hsuggested hwritten =>
      obtain ⟨hpriority, htype⟩ := hlogs row suggestion priority newTypeId happlies hsuggested
      rcases hwritten.rest with rfl | rfl
      · exact h
      · refine h.write happlies.row rfl (List.append_nil _).symm (Logs.none (fun field => ?_) ticketId)
        cases field with
        | ticketTypeId => simp [TrackedField.read, suggestedRow, htype]
        | assignable field =>
            cases field with
            | priority => simp [TrackedField.read, ActionField.read, suggestedRow, hpriority]
            | status | groupId | agentId | platform => rfl

-- A creation's row is recorded exactly if it is committed.
theorem insertedRow_create {desk : HelpDesk} {dto : CreateTicketDto} {newIds : GeneratedIds} {now : Nat}
    {ticket result : Ticket} {middle after : TicketStore}
    (hcreate : (create env dto newIds now).run desk.toTicketStore = .ok (result, after))
    (hticket : (newTicket env dto newIds now).run desk.toTicketStore = .ok (ticket, middle)) :
    insertedRow env desk (.tickets (.create dto newIds now)) = some (newIds.ticketId, ticket) := by
  simp only [insertedRow, hcreate, hticket]

theorem Logged.step {state : Recorded} (h : Logged env state.inserted state.desk.toTicketStore)
    (call : LocalCall)
    (hlogs : call.1.Commits env runtime state.desk → LogsChanges env runtime state.desk call.1) :
    Logged env (state.step env runtime call).inserted (state.step env runtime call).desk.toTicketStore := by
  obtain ⟨call, hlocal⟩ := call
  cases call with
  | tickets call =>
      cases call with
      | create dto newIds now =>
          cases hrun : (create env dto newIds now).run state.desk.toTicketStore with
          | error error => simpa [Recorded.step, HelpDesk.stepLocal, HelpDesk.step, Ticketing.step, commit, hrun,
              insertedRow] using h
          | ok pair =>
              obtain ⟨result, after⟩ := pair
              obtain ⟨ticket, middle, hticket, hafter⟩ :=
                create_logged runtime h (hlogs ⟨result, after, hrun⟩) result after hrun
              have hinserted := insertedRow_create hrun hticket
              simpa [Recorded.step, HelpDesk.stepLocal, HelpDesk.step, Ticketing.step, commit, hrun,
                hinserted] using hafter
      | update id dto actorAgentId now =>
          exact (Ensures.of_commits fun hcommits => update_logged runtime h (hlogs hcommits)).commit h
      | merge primaryId sourceTicketIds now =>
          exact (Ensures.of_commits fun hcommits => merge_logged runtime h (hlogs hcommits)).commit h
  | applyScenario scenarioId ticketId now =>
      exact (Ensures.of_commits fun hcommits => applyScenario_logged runtime h (hlogs hcommits)).commit h
  | sweepTenant order now =>
      have hsweep : Ensures (HelpDesk.sweepTenant env order now) state.desk
          fun _ after => Logged env state.inserted after.toTicketStore :=
        .of_commits fun hcommits =>
          .get_bind (sweepRules_logged order now state.desk.timeRules 0 state.desk h (hlogs hcommits))
      exact hsweep.commit h
  | importTicket ticket context newIds => cases hlocal
  | triageTicket ticketId reply order =>
      exact (Ensures.of_commits fun hcommits => triageTicket_logged runtime h (hlogs hcommits)).commit h

-- From a tenant without tickets on, in every run whose committed calls log what they
-- change.
theorem timeline_replays (env : Environment) (desk : HelpDesk) (htickets : desk.tickets = ∅)
    (hactivities : desk.activities = []) (calls : List LocalCall)
    (hlogs : Runs.AllSteps (Recorded.step env runtime)
      (fun state call => call.1.Commits env runtime state.desk → LogsChanges env runtime state.desk call.1)
      ⟨desk, ∅⟩ calls) :
    Runs.Always (Recorded.step env runtime) (TimelineReplays env) ⟨desk, ∅⟩ calls := by
  have hstart : Logged env ∅ desk.toTicketStore := by
    refine ⟨?_, ?_⟩
    · intro activity hactivity
      rw [hactivities] at hactivity
      cases hactivity
    · intro id row hl
      rw [htickets, AList.lookup_empty] at hl
      cases hl
  have hreached : Runs.Always (Recorded.step env runtime)
      (fun state => Logged env state.inserted state.desk.toTicketStore) ⟨desk, ∅⟩ calls :=
    Runs.invariant hstart (fun state call h hcall => h.step runtime call hcall) hlogs
  exact hreached.mono fun state h => h.replays

theorem rulesMeet_of_no_rules {cond : Ticket → AutomationAction → Prop} {now : Nat} {id : Uuid}
    {trigger : AutomationTrigger} {ticket : Ticket} {store before : TicketStore}
    (h : store.automationRules = []) :
    RulesMeet env cond now id (triggeredRules store trigger) ticket before := by
  simp [triggeredRules, h, RulesMeet]

theorem createLogs_of_no_rules {desk : HelpDesk} (h : desk.automationRules = []) (dto : CreateTicketDto)
    (newIds : GeneratedIds) (now : Nat) : LogsChanges env runtime desk (.tickets (.create dto newIds now)) := by
  intro ticket store hticket
  obtain ⟨hagree, -⟩ := newTicket_ensures env dto newIds now desk.toTicketStore ticket store hticket
  have hrules : store.automationRules = desk.automationRules := hagree.comp TicketStore.automationRules
  exact rulesMeet_of_no_rules (hrules.trans h)

def createFirst : LocalCall := ⟨.tickets (.create (requestOf "Printer on fire") ⟨3, 1⟩ 10), rfl⟩

def createSecond : LocalCall := ⟨.tickets (.create (requestOf "Printer still on fire") ⟨3, 2⟩ 20), rfl⟩

def closeSecond : LocalCall := ⟨.tickets (.update secondId { noChange with status := some .closed } none 30), rfl⟩

def mergeSecond : LocalCall := ⟨.tickets (.merge firstId [secondId] 40), rfl⟩

theorem closeThenMerge_replays :
    Runs.Always (Recorded.step twoIds plainRuntime) (TimelineReplays twoIds) ⟨newTenant, ∅⟩
      [createFirst, createSecond, closeSecond, mergeSecond] := by
  refine timeline_replays plainRuntime twoIds newTenant rfl rfl _ ⟨?_, ?_, ?_, ?_, trivial⟩
  · exact fun _ => createLogs_of_no_rules plainRuntime rfl _ _ _
  · exact fun _ => createLogs_of_no_rules plainRuntime (List.isEmpty_iff.mp (by decide +kernel)) _ _ _
  · refine fun _ => ⟨⟨trivial, trivial, trivial⟩, fun key existing edits _ _ => ?_⟩
    exact rulesMeet_of_no_rules (List.isEmpty_iff.mp (by decide +kernel))
  · intro _ sourceId hsource _ key source hkey hl _
    obtain rfl := List.mem_singleton.mp hsource
    obtain rfl : 2 = key := Option.some.inj hkey
    let before := ((Recorded.mk newTenant ∅).step twoIds plainRuntime createFirst).step twoIds plainRuntime
      createSecond |>.step twoIds plainRuntime closeSecond
    have hstatus : (before.desk.tickets.lookup 2).map Ticket.status = some .closed := by decide +kernel
    have hfound : before.desk.tickets.lookup 2 = some source := hl
    rw [hfound] at hstatus
    exact Option.some.inj hstatus

-- The merge closes the second ticket, and its timeline is empty.
theorem merging_open_ticket_unlogged :
    ¬ Runs.Always (Recorded.step twoIds plainRuntime) (TimelineReplays twoIds) ⟨newTenant, ∅⟩
      [createFirst, createSecond, mergeSecond] := by
  intro h
  let after := ((Recorded.mk newTenant ∅).step twoIds plainRuntime createFirst).step twoIds plainRuntime
    createSecond |>.step twoIds plainRuntime mergeSecond
  have hafter : TimelineReplays twoIds after := h.2.2.2
  have hfound : (after.desk.tickets.lookup 2).isSome := by decide +kernel
  obtain ⟨row, hrow⟩ := Option.isSome_iff_exists.mp hfound
  obtain ⟨first, hfirst, hreplays⟩ := hafter 2 row hrow
  have hempty : changesOf after.desk.activities 2 (.assignable .status) = [] := by decide +kernel
  have hstatus := hreplays (.assignable .status)
  rw [hempty] at hstatus
  have hclosed : (after.desk.tickets.lookup 2).map Ticket.status = some .closed := by decide +kernel
  have hnew : (after.inserted.lookup 2).map Ticket.status = some .new := by decide +kernel
  rw [hrow] at hclosed
  rw [hfirst] at hnew
  have hsame : some first.status.text = some row.status.text := hstatus
  rw [Option.some.inj hclosed, Option.some.inj hnew] at hsame
  exact absurd hsame (by decide)

end CloudOps.Ticketing
