import CloudOps.Ticketing.Conversation
import CloudOps.Ticketing.OverdueSystem
import CloudOps.Ticketing.ResolvedAt

namespace CloudOps.Ticketing

open CloudOps.ReadCommitted CloudOps.Transaction

variable {env : Environment} {runtime : Runtime} {store : TicketStore}

-- The calls that a conversation comes from, one after the other.
inductive ConversationCall where
  | create (dto : CreateTicketDto) (newIds : GeneratedIds) (now : Nat)
  | addMessage (ticketId : String) (dto : AddTicketMessageDto) (now : Nat)
  | merge (primaryId : String) (sourceTicketIds : List String) (now : Nat)

def converse (env : Environment) (runtime : Runtime) (store : TicketStore) : ConversationCall → TicketStore
  | .create dto newIds now => commit (create env dto newIds now) store
  | .addMessage ticketId dto now => commit (addMessage env runtime ticketId dto now) store
  | .merge primaryId sourceTicketIds now => commit (merge env primaryId sourceTicketIds now) store

def firstResponse (store : TicketStore) (id : Uuid) : Option Nat :=
  (store.tickets.lookup id).bind Ticket.firstResponseAt

def AgentReplied (store : TicketStore) (id : Uuid) : Prop :=
  ∃ message ∈ store.messages, message.type = .reply ∧ message.authorType = .agent ∧ message.ticketId = id

def ResponseTracked (store : TicketStore) : Prop :=
  ∀ id, Unmerged store id → ((firstResponse store id).isSome = true ↔ AgentReplied store id)

-- The overdue sweep reports no missed first response of a ticket an agent has replied
-- to.
def NoFalseBreach (store : TicketStore) : Prop :=
  ∀ solo now found writes, passAlone solo now store.tickets = .returned found writes →
    ∀ breach ∈ found, breach.overdueType = .firstResponse → ¬ AgentReplied store breach.ticketId

-- The call is no merge that moves an agent's reply from an unmerged source to a primary
-- that stays unmerged and is not marked as answered.
def MovesNoFirstReply (env : Environment) (store : TicketStore) : ConversationCall → Prop
  | .merge primaryId sourceTicketIds _ =>
      SourcesKnown env store primaryId sourceTicketIds →
      ∀ primaryKey source, env.castUuid primaryId = some primaryKey → Unmerged store primaryKey →
        primaryKey ∉ sourceKeys env primaryId sourceTicketIds →
        source ∈ sourceKeys env primaryId sourceTicketIds → Unmerged store source → AgentReplied store source →
        (firstResponse store primaryKey).isSome = true
  | .create .. | .addMessage .. => True

def agentReplies : MessageKind where
  is message := message.type = .reply && message.authorType = .agent
  moves _ _ := rfl
  noNote _ _ _ := rfl

theorem agentReplied_iff {id : Uuid} : AgentReplied store id ↔ id ∈ agentReplies.ticketsIn store := by
  rw [agentReplies.mem_ticketsIn]
  simp [AgentReplied, agentReplies, and_assoc]

-- What every conversation keeps, tracked or not: replies are on tickets that are there,
-- and a merged ticket is closed.
structure Conversing (store : TicketStore) : Prop where
  known : ∀ id, AgentReplied store id → id ∈ store.tickets
  closed : ∀ id ticket, store.tickets.lookup id = some ticket → ticket.mergedIntoId ≠ none →
    ticket.status = .closed

structure Tracking (store : TicketStore) : Prop extends Conversing store where
  tracked : ResponseTracked store

theorem Tracking.noFalseBreach (h : Tracking store) : NoFalseBreach store := by
  intro solo now found writes hpass breach hmem htype hreplied
  obtain ⟨other, hreturned, -⟩ := passAlone_returned solo now store.tickets
  rw [hreturned] at hpass
  obtain ⟨rfl, -⟩ := Outcome.returned.inj hpass
  obtain ⟨hrow, hcandidate, hmissed, -⟩ := mem_overdueBreaches.mp hmem
  simp only [isCandidate, Bool.and_eq_true, Bool.not_eq_true'] at hcandidate
  have hunmerged : breach.ticket.mergedIntoId = none := by
    by_contra hmerged
    have hclosed := h.closed _ _ hrow hmerged
    rw [hclosed] at hcandidate
    cases hcandidate.1
  have hanswered := (h.tracked breach.ticketId ⟨breach.ticket, hrow, hunmerged⟩).mpr hreplied
  rw [firstResponse, hrow, Option.bind_some] at hanswered
  simp only [Ticket.breaches, htype, Ticket.metAt, Bool.and_eq_true, Option.isNone_iff_eq_none] at hmissed
  rw [hmissed.1.2] at hanswered
  cases hanswered

section Create

variable {after : TicketStore} {dto : CreateTicketDto} {newIds : GeneratedIds} {now : Nat} {ticket : Ticket}

theorem create_conversing (h : Conversing store)
    (hrun : (create env dto newIds now).run store = .ok (ticket, after)) :
    Conversing after ∧ (ResponseTracked store → ResponseTracked after) := by
  obtain ⟨hreplies, hfree, ⟨row, hrow, hunanswered, hunmerged⟩, hothers⟩ :=
    agentReplies.create dto newIds now store ticket after hrun
  have hreplied : ∀ id, AgentReplied after id ↔ AgentReplied store id := by
    intro id
    rw [agentReplied_iff, agentReplied_iff, hreplies]
  have hnew : ¬ AgentReplied store newIds.ticketId := by
    intro hreply
    exact absurd (h.known _ hreply) (AList.lookup_eq_none.mp hfree)
  refine ⟨⟨fun id hid => ?_, fun id found hfound hmerged => ?_⟩, fun htracked id hid => ?_⟩
  · have hne : id ≠ newIds.ticketId := by
      rintro rfl
      exact hnew ((hreplied _).mp hid)
    rw [← AList.lookup_isSome, hothers id hne, AList.lookup_isSome]
    exact h.known id ((hreplied id).mp hid)
  · by_cases hsame : id = newIds.ticketId
    · subst hsame
      obtain rfl := Option.some.inj (hrow.symm.trans hfound)
      exact absurd hunmerged hmerged
    · rw [hothers id hsame] at hfound
      exact h.closed id found hfound hmerged
  · rw [hreplied id]
    by_cases hsame : id = newIds.ticketId
    · subst hsame
      simp [firstResponse, hrow, hunanswered, hnew]
    · obtain ⟨found, hfound, hnull⟩ := hid
      have hlookup := hothers id hsame
      rw [firstResponse, hlookup]
      exact htracked id ⟨found, hlookup.symm.trans hfound, hnull⟩

end Create

section AddMessage

variable {after : TicketStore} {ticketId : String} {dto : AddTicketMessageDto} {now : Nat}
  {message : TicketMessage}

theorem answeredRow_keeps (dto : AddTicketMessageDto) (now : Nat) (ticket : Ticket) :
    (answeredRow dto now ticket).mergedIntoId = ticket.mergedIntoId ∧
      (answeredRow dto now ticket).status = ticket.status := by
  unfold answeredRow
  split
  · exact ⟨rfl, rfl⟩
  · exact ⟨rfl, rfl⟩

theorem answeredRow_firstResponseAt (dto : AddTicketMessageDto) (now : Nat) (ticket : Ticket) :
    (answeredRow dto now ticket).firstResponseAt.isSome = true ↔
      ticket.firstResponseAt.isSome = true ∨ dto.type = .reply ∧ dto.authorType = .agent := by
  unfold answeredRow
  by_cases hanswered : ticket.firstResponseAt = none
  · by_cases hreply : dto.type = .reply ∧ dto.authorType = .agent
    · simp [hanswered, hreply]
    · simp [hanswered, hreply]
  · simp [hanswered, Option.isSome_iff_ne_none]

theorem addMessage_conversing (h : Conversing store)
    (hrun : (addMessage env runtime ticketId dto now).run store = .ok (message, after)) :
    Conversing after ∧ (ResponseTracked store → ResponseTracked after) := by
  obtain ⟨key, ticket, -, hl, ⟨rfl, htype, hauthor⟩, hmessages, htickets⟩ :=
    addMessage_writes runtime ticketId dto now store message after hrun
  obtain ⟨hpointer, hstatus⟩ := answeredRow_keeps dto now ticket
  have hreplied : ∀ id, AgentReplied after id ↔
      AgentReplied store id ∨ id = message.ticketId ∧ dto.type = .reply ∧ dto.authorType = .agent := by
    intro id
    rw [agentReplied_iff, agentReplied_iff, agentReplies.ticketsIn_append hmessages, List.mem_append]
    by_cases hreply : dto.type = .reply ∧ dto.authorType = .agent
    · simp [agentReplies, htype, hauthor, hreply]
    · simp [agentReplies, htype, hauthor, hreply]
  have hmem : ∀ id ∈ store.tickets, id ∈ after.tickets := by
    intro id hid
    rw [← AList.lookup_isSome, htickets]
    split
    · rfl
    · exact AList.lookup_isSome.mpr hid
  refine ⟨⟨fun id hid => ?_, fun id found hfound hmerged => ?_⟩, fun htracked id hid => ?_⟩
  · rcases (hreplied id).mp hid with hold | ⟨rfl, -⟩
    · exact hmem id (h.known id hold)
    · exact hmem _ (Table.mem_of_lookup hl)
  · rw [htickets] at hfound
    split at hfound
    · rename_i hsame
      subst hsame
      obtain rfl := Option.some.inj hfound
      rw [hpointer] at hmerged
      exact hstatus.trans (h.closed _ ticket hl hmerged)
    · exact h.closed id found hfound hmerged
  · rw [hreplied id]
    obtain ⟨found, hfound, hnull⟩ := hid
    by_cases hsame : id = message.ticketId
    · subst hsame
      rw [htickets, if_pos rfl] at hfound
      obtain rfl := Option.some.inj hfound
      have hbefore := htracked _ ⟨ticket, hl, hpointer.symm.trans hnull⟩
      rw [firstResponse, hl, Option.bind_some] at hbefore
      rw [firstResponse, htickets, if_pos rfl, Option.bind_some, answeredRow_firstResponseAt, hbefore]
      simp
    · rw [htickets, if_neg hsame] at hfound
      have hbefore := htracked id ⟨found, hfound, hnull⟩
      rw [firstResponse, htickets, if_neg hsame, ← firstResponse, hbefore]
      simp [hsame]

end AddMessage

section Merge

variable {primaryId : String} {primaryKey : Uuid} {sourceTicketIds : List String}

-- A merge marks no ticket as answered, and closes those it merges.
theorem merge_columns (h : Conversing store) (primaryId : String) (sourceTicketIds : List String) (now : Nat) :
    Ensures (merge env primaryId sourceTicketIds now) store fun _ after =>
      Same Ticket.firstResponseAt store after ∧
        ∀ id ticket, after.tickets.lookup id = some ticket → ticket.mergedIntoId ≠ none →
          ticket.status = .closed := by
  have hkeep : ∀ primaryKey primaryNumber, MergeKeeps env primaryId primaryKey primaryNumber now
      fun _ state => Same Ticket.firstResponseAt store state ∧
        ∀ id ticket, state.tickets.lookup id = some ticket → ticket.mergedIntoId ≠ none →
          ticket.status = .closed := by
    intro primaryKey primaryNumber
    refine ⟨fun _ _ hstate => hstate, fun _ _ _ _ _ hstate _ _ _ _ => hstate, ?_⟩
    intro _ _ state key source hstate _ _ hl _
    refine ⟨fun id => ?_, fun id ticket hticket hmerged => ?_⟩
    · rw [← hstate.1 id, afterMerge, Table.lookup_insert_eq]
      by_cases hsame : id = key
      · rw [if_pos hsame, hsame, hl]
        rfl
      · rw [if_neg hsame]
    · rw [afterMerge, Table.lookup_insert_eq] at hticket
      split at hticket
      · obtain rfl := Option.some.inj hticket
        rfl
      · exact hstate.2 id ticket hticket hmerged
  apply merge_ensures primaryId sourceTicketIds now store
  · exact fun primaryKey primary _ _ => ⟨hkeep primaryKey primary.ticketNumber, fun _ => rfl, h.closed⟩
  · exact fun state hstate => hstate
  · exact fun state _ _ hstate => hstate

theorem mem_map_relocate {keys ids : List Uuid} {id : Uuid} (hid : id ∉ keys) :
    id ∈ ids.map (relocate store primaryKey keys) ↔
      id ∈ ids ∨ id = primaryKey ∧ ∃ source ∈ keys, mergedInto store source = none ∧ source ∈ ids := by
  rw [List.mem_map]
  constructor
  · rintro ⟨old, hold, hmoved⟩
    unfold relocate at hmoved
    by_cases hmoves : old ∈ keys ∧ mergedInto store old = none
    · rw [if_pos hmoves] at hmoved
      exact .inr ⟨hmoved.symm, old, hmoves.1, hmoves.2, hold⟩
    · rw [if_neg hmoves] at hmoved
      exact .inl (hmoved ▸ hold)
  · rintro (hold | ⟨rfl, source, hsource, hnull, hmem⟩)
    · exact ⟨id, hold, if_neg fun hmoves => hid hmoves.1⟩
    · exact ⟨source, hmem, if_pos ⟨hsource, hnull⟩⟩

-- A merge of known tickets keeps the column right exactly if it brings no unanswered
-- primary its first reply.
theorem merge_tracked_iff (h : Conversing store) (htracked : ResponseTracked store)
    (hkey : env.castUuid primaryId = some primaryKey) (hmem : primaryKey ∈ store.tickets)
    (hknown : SourcesKnown env store primaryId sourceTicketIds) (now : Nat) :
    ResponseTracked (converse env runtime store (.merge primaryId sourceTicketIds now)) ↔
      ∀ source, Unmerged store primaryKey → primaryKey ∉ sourceKeys env primaryId sourceTicketIds →
        source ∈ sourceKeys env primaryId sourceTicketIds → Unmerged store source → AgentReplied store source →
        (firstResponse store primaryKey).isSome = true := by
  have hmerged : Merged primaryKey (sourceKeys env primaryId sourceTicketIds) store
      (converse env runtime store (.merge primaryId sourceTicketIds now)) :=
    step_merge_known env hkey hmem hknown now
  have hreplies : agentReplies.ticketsIn (converse env runtime store (.merge primaryId sourceTicketIds now)) =
      (agentReplies.ticketsIn store).map
        (relocate store primaryKey (sourceKeys env primaryId sourceTicketIds)) :=
    agentReplies.step_merge hkey hmem hknown now
  obtain ⟨_, after, hcommit, hcolumns, -⟩ :=
    (merge_commits hkey hmem hknown now).ensures (merge_columns h primaryId sourceTicketIds now)
  have hafter : converse env runtime store (.merge primaryId sourceTicketIds now) = after := hcommit
  rw [hafter] at hmerged hreplies ⊢
  have hresponse : ∀ id, firstResponse after id = firstResponse store id := by
    intro id
    have hid := congrArg (fun column => column.bind fun at_ => at_) (hcolumns id)
    simp only [Option.bind_map] at hid
    exact hid
  have hunmerged : ∀ source, AgentReplied store source →
      (Unmerged store source ↔ mergedInto store source = none) := by
    intro source hsource
    rw [Ticketing.unmerged_iff, and_iff_right (h.known source hsource)]
  have hreplied : ∀ id ∉ sourceKeys env primaryId sourceTicketIds, (AgentReplied after id ↔ AgentReplied store id ∨
      id = primaryKey ∧ ∃ source ∈ sourceKeys env primaryId sourceTicketIds,
        Unmerged store source ∧ AgentReplied store source) := by
    intro id hid
    rw [agentReplied_iff, hreplies, mem_map_relocate hid, ← agentReplied_iff]
    simp only [← agentReplied_iff]
    refine or_congr Iff.rfl (and_congr_right fun _ => exists_congr fun source => and_congr_right fun _ => ?_)
    constructor
    · exact fun hsource => ⟨(hunmerged source hsource.2).mpr hsource.1, hsource.2⟩
    · exact fun hsource => ⟨(hunmerged source hsource.2).mp hsource.1, hsource.2⟩
  unfold ResponseTracked
  simp only [hmerged.unmerged_iff, hresponse]
  constructor
  · intro hall source hprimary hown hsource hsourceUnmerged hsourceReplied
    refine (hall primaryKey ⟨hprimary, hown⟩).mpr ((hreplied primaryKey hown).mpr (.inr ⟨rfl, ?_⟩))
    exact ⟨source, hsource, hsourceUnmerged, hsourceReplied⟩
  · rintro hmoves id ⟨hid, hother⟩
    rw [hreplied id hother]
    constructor
    · exact fun hanswered => .inl ((htracked id hid).mp hanswered)
    · rintro (hold | ⟨rfl, source, hsource, hsourceUnmerged, hsourceReplied⟩)
      · exact (htracked id hid).mpr hold
      · exact hmoves source hid hother hsource hsourceUnmerged hsourceReplied

theorem merge_conversing (h : Conversing store) (primaryId : String) (sourceTicketIds : List String)
    (now : Nat) : Conversing (converse env runtime store (.merge primaryId sourceTicketIds now)) := by
  by_cases hboth : Known env store primaryId ∧ SourcesKnown env store primaryId sourceTicketIds
  · obtain ⟨⟨primaryKey, hkey, hmem⟩, hknown⟩ := hboth
    have hmerged : Merged primaryKey (sourceKeys env primaryId sourceTicketIds) store
        (converse env runtime store (.merge primaryId sourceTicketIds now)) :=
      step_merge_known env hkey hmem hknown now
    have hreplies : agentReplies.ticketsIn (converse env runtime store (.merge primaryId sourceTicketIds now)) =
        (agentReplies.ticketsIn store).map
          (relocate store primaryKey (sourceKeys env primaryId sourceTicketIds)) :=
      agentReplies.step_merge hkey hmem hknown now
    obtain ⟨_, after, hcommit, -, hclosed⟩ :=
      (merge_commits hkey hmem hknown now).ensures (merge_columns h primaryId sourceTicketIds now)
    have hafter : converse env runtime store (.merge primaryId sourceTicketIds now) = after := hcommit
    rw [hafter] at hmerged hreplies ⊢
    refine ⟨fun id hid => ?_, hclosed⟩
    rw [agentReplied_iff, hreplies] at hid
    obtain ⟨old, hold, rfl⟩ := List.mem_map.mp hid
    rw [hmerged.tickets]
    unfold relocate
    split
    · exact hmem
    · exact h.known old (agentReplied_iff.mpr hold)
  · have hsame : converse env runtime store (.merge primaryId sourceTicketIds now) = store :=
      step_merge_unknown env hboth
    rw [hsame]
    exact h

end Merge

-- One call keeps the column right exactly if it meets the condition.
theorem converse_tracked_iff (runtime : Runtime) (h : Conversing store) (htracked : ResponseTracked store)
    (call : ConversationCall) :
    Conversing (converse env runtime store call) ∧
      (ResponseTracked (converse env runtime store call) ↔ MovesNoFirstReply env store call) := by
  cases call with
  | create dto newIds now =>
      have hboth : Ensures (create env dto newIds now) store fun _ after =>
          Conversing after ∧ ResponseTracked after := by
        intro ticket after hrun
        obtain ⟨hafter, hkept⟩ := create_conversing h hrun
        exact ⟨hafter, hkept htracked⟩
      obtain ⟨hafter, hkept⟩ := hboth.commit ⟨h, htracked⟩
      exact ⟨hafter, iff_of_true hkept trivial⟩
  | addMessage ticketId dto now =>
      have hboth : Ensures (addMessage env runtime ticketId dto now) store fun _ after =>
          Conversing after ∧ ResponseTracked after := by
        intro message after hrun
        obtain ⟨hafter, hkept⟩ := addMessage_conversing h hrun
        exact ⟨hafter, hkept htracked⟩
      obtain ⟨hafter, hkept⟩ := hboth.commit ⟨h, htracked⟩
      exact ⟨hafter, iff_of_true hkept trivial⟩
  | merge primaryId sourceTicketIds now =>
      refine ⟨merge_conversing h primaryId sourceTicketIds now, ?_⟩
      by_cases hboth : Known env store primaryId ∧ SourcesKnown env store primaryId sourceTicketIds
      · obtain ⟨⟨primaryKey, hkey, hmem⟩, hknown⟩ := hboth
        rw [merge_tracked_iff h htracked hkey hmem hknown]
        constructor
        · intro hmoves _ other source hother
          obtain rfl := Option.some.inj (hkey.symm.trans hother)
          exact hmoves source
        · exact fun hmoves source => hmoves hknown primaryKey source hkey
      · have hsame : converse env runtime store (.merge primaryId sourceTicketIds now) = store :=
          step_merge_unknown env hboth
        rw [hsame]
        refine iff_of_true htracked fun hknown primaryKey source hkey hprimary => ?_
        exact absurd ⟨⟨primaryKey, hkey, (unmerged_iff.mp hprimary).1⟩, hknown⟩ hboth

-- first_response_at says whether an agent has replied, and the sweep reports no missed
-- response of a ticket that has been answered, in exactly the runs in which no merge
-- brings an unanswered primary its first reply.
theorem first_response_iff (env : Environment) (runtime : Runtime) (store : TicketStore)
    (h : Tracking store) (calls : List ConversationCall) :
    Runs.Always (converse env runtime) (fun state => ResponseTracked state ∧ NoFalseBreach state) store calls ↔
      Runs.AllSteps (converse env runtime) (MovesNoFirstReply env) store calls := by
  apply Runs.always_iff_allSteps calls h
  · exact fun state hstate => ⟨hstate.tracked, hstate.noFalseBreach⟩
  · intro state call hstate hcondition
    obtain ⟨hafter, hiff⟩ := converse_tracked_iff runtime hstate.toConversing hstate.tracked call
    exact ⟨hafter, hiff.mpr hcondition⟩
  · intro state call hstate hafter
    exact (converse_tracked_iff runtime hstate.toConversing hstate.tracked call).2.mp hafter.1

theorem newTenant_tracking : Tracking newTenant.toTicketStore := by
  refine ⟨⟨?_, ?_⟩, ?_⟩
  · rintro id ⟨message, hmem, -⟩
    cases hmem
  · intro id ticket hl
    cases hl
  · rintro id ⟨ticket, hl, -⟩
    cases hl

def agentReply : AddTicketMessageDto where
  type := .reply
  authorType := .agent
  authorId := none
  body := "On my way."
  cc := none

def openTwo : List ConversationCall :=
  [.create (requestOf "Printer on fire") ⟨2, 1⟩ 10, .create (requestOf "Printer still on fire") ⟨3, 2⟩ 20]

-- The ticket that stays has its reply already.
def replyThenMerge : List ConversationCall :=
  openTwo ++ [.addMessage firstId agentReply 30, .merge firstId [secondId] 40]

theorem replyThenMerge_tracked :
    Runs.Always (converse twoIds plainRuntime) (fun state => ResponseTracked state ∧ NoFalseBreach state)
      newTenant.toTicketStore replyThenMerge := by
  refine (first_response_iff twoIds plainRuntime _ newTenant_tracking _).mpr ⟨trivial, trivial, trivial, ?_, trivial⟩
  intro _ primaryKey source hkey _ _ _ _ _
  obtain rfl : 1 = primaryKey := Option.some.inj hkey
  decide +kernel

-- The reply is on the ticket that is merged away.
def replyMovedByMerge : List ConversationCall :=
  openTwo ++ [.addMessage secondId agentReply 30, .merge firstId [secondId] 40]

theorem replyMovedByMerge_untracked :
    ¬ Runs.Always (converse twoIds plainRuntime) (fun state => ResponseTracked state ∧ NoFalseBreach state)
      newTenant.toTicketStore replyMovedByMerge := by
  intro h
  let after := Runs.run (converse twoIds plainRuntime) newTenant.toTicketStore replyMovedByMerge
  have htracked : ResponseTracked after := h.last.1
  have hnull : (after.tickets.lookup 1).map Ticket.mergedIntoId = some none := by decide +kernel
  have hreplied : 1 ∈ agentReplies.ticketsIn after := by decide +kernel
  have hresponse : (firstResponse after 1).isSome = false := by decide +kernel
  have hanswered := (htracked 1 (Option.map_eq_some_iff.mp hnull)).mpr (agentReplied_iff.mpr hreplied)
  rw [hresponse] at hanswered
  cases hanswered

end CloudOps.Ticketing
