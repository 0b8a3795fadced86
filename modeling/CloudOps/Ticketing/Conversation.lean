import CloudOps.Ticketing.InboundEmail
import CloudOps.Ticketing.MergePointers

namespace CloudOps.Ticketing

open CloudOps.ReadCommitted CloudOps.Transaction CloudOps.Pointers

-- A kind of message, on whichever ticket, that the notes of the system are not of.
structure MessageKind where
  is : TicketMessage → Bool
  moves : ∀ message id, is { message with ticketId := id } = is message
  noNote : ∀ id body now, is (actionNote id body now) = false

namespace MessageKind

variable (kind : MessageKind)

-- The tickets of the messages of the kind, in the messages' order.
def ticketsIn (store : TicketStore) : List Uuid := (store.messages.filter kind.is).map TicketMessage.ticketId

theorem mem_ticketsIn {store : TicketStore} {id : Uuid} :
    id ∈ kind.ticketsIn store ↔ ∃ message ∈ store.messages, kind.is message = true ∧ message.ticketId = id := by
  simp [ticketsIn, and_assoc]

theorem ticketsIn_congr {before after : TicketStore} (h : after.messages = before.messages) :
    kind.ticketsIn after = kind.ticketsIn before := by
  unfold ticketsIn
  rw [h]

theorem ticketsIn_append {before after : TicketStore} {message : TicketMessage}
    (h : after.messages = before.messages ++ [message]) :
    kind.ticketsIn after = kind.ticketsIn before ++ if kind.is message = true then [message.ticketId] else [] := by
  unfold ticketsIn
  rw [h, List.filter_append, List.map_append]
  by_cases his : kind.is message = true
  · simp [his]
  · simp [his]

theorem ticketsIn_note (store : TicketStore) (id : Uuid) (body : String) (now : Nat) :
    kind.ticketsIn { store with messages := store.messages ++ [actionNote id body now] } =
      kind.ticketsIn store := by
  simp [ticketsIn, List.filter_append, kind.noNote]

theorem is_moved (sourceKey primaryKey : Uuid) (message : TicketMessage) :
    kind.is (message.moved sourceKey primaryKey) = kind.is message := by
  unfold TicketMessage.moved
  split
  · exact kind.moves message primaryKey
  · rfl

theorem ticketsIn_afterMerge (primaryKey primaryNumber now sourceKey : Nat) (source : Ticket)
    (store : TicketStore) :
    kind.ticketsIn (afterMerge primaryKey primaryNumber now sourceKey source store) =
      (kind.ticketsIn store).map fun id => if id = sourceKey then primaryKey else id := by
  have hnote := kind.ticketsIn_note
    { afterMerge primaryKey primaryNumber now sourceKey source store with
      messages := store.messages.map (TicketMessage.moved sourceKey primaryKey) } sourceKey
    s!"This ticket was merged into #{primaryNumber}." now
  refine hnote.trans ?_
  unfold ticketsIn
  dsimp only
  induction store.messages with
  | nil => rfl
  | cons message rest ih =>
      have hticket : (message.moved sourceKey primaryKey).ticketId =
          if message.ticketId = sourceKey then primaryKey else message.ticketId := by
        unfold TicketMessage.moved
        split <;> rfl
      by_cases his : kind.is message = true
      · simp only [List.map_cons, List.filter_cons, kind.is_moved, his, if_true, hticket, ih]
      · simp only [List.map_cons, List.filter_cons, kind.is_moved, his, if_false, ih, Bool.false_eq_true]

end MessageKind

variable {env : Environment} (runtime : Runtime)

def Unmerged (store : TicketStore) (id : Uuid) : Prop :=
  ∃ ticket, store.tickets.lookup id = some ticket ∧ ticket.mergedIntoId = none

theorem unmerged_iff {store : TicketStore} {id : Uuid} :
    Unmerged store id ↔ id ∈ store.tickets ∧ mergedInto store id = none := by
  constructor
  · rintro ⟨ticket, hl, hnull⟩
    refine ⟨Table.mem_of_lookup hl, ?_⟩
    rw [mergedInto, hl, Option.bind_some, hnull]
  · rintro ⟨hmem, hnull⟩
    obtain ⟨ticket, hl⟩ := Option.isSome_iff_exists.mp (AList.lookup_isSome.mpr hmem)
    rw [mergedInto, hl, Option.bind_some] at hnull
    exact ⟨ticket, hl, hnull⟩

theorem Merged.unmerged_iff {primaryKey : Uuid} {keys : List Uuid} {before after : TicketStore}
    (h : Merged primaryKey keys before after) (id : Uuid) :
    Unmerged after id ↔ Unmerged before id ∧ id ∉ keys := by
  rw [Ticketing.unmerged_iff, Ticketing.unmerged_iff, h.pointers, h.tickets, pointAll_eq_none_iff, and_assoc]

section Merge

-- Where the messages of a ticket go when the sources still to come are merged.
def relocate (store : TicketStore) (primaryKey : Uuid) (keys : List Uuid) (id : Uuid) : Uuid :=
  if id ∈ keys ∧ mergedInto store id = none then primaryKey else id

theorem mergedInto_afterMerge (primaryKey primaryNumber now sourceKey : Nat) (source : Ticket)
    (store : TicketStore) :
    mergedInto (afterMerge primaryKey primaryNumber now sourceKey source store) =
      point (mergedInto store) sourceKey primaryKey := by
  funext id
  rw [mergedInto, afterMerge, Table.lookup_insert_eq]
  by_cases hsame : id = sourceKey
  · rw [if_pos hsame, hsame, point_self]
    rfl
  · rw [if_neg hsame, point_of_ne hsame]
    rfl

-- What the loop has moved, and what it is still to move, is what it was to move.
theorem MessageKind.mergeKeeps (kind : MessageKind) (primaryId : String) (primaryKey : Uuid)
    (primaryNumber now : Nat) (target : List Uuid) :
    MergeKeeps env primaryId primaryKey primaryNumber now fun rest store =>
      (kind.ticketsIn store).map (relocate store primaryKey (sourceKeys env primaryId rest)) = target := by
  refine ⟨?_, ?_, ?_⟩
  · intro rest store h
    rwa [sourceKeys_cons_self] at h
  · intro sourceId rest store key source h hother hkey hl hmerged
    rw [sourceKeys_cons env hother hkey] at h
    rw [← h]
    apply List.map_congr_left
    intro id _
    have hpointer : mergedInto store key ≠ none := by
      rw [mergedInto, hl, Option.bind_some]
      exact Option.isSome_iff_ne_none.mp hmerged
    unfold relocate
    by_cases hsame : id = key
    · subst hsame
      simp [hpointer]
    · simp [hsame]
  · intro sourceId rest store key source h hother hkey hl hunmerged
    rw [sourceKeys_cons env hother hkey] at h
    rw [← h, kind.ticketsIn_afterMerge, List.map_map]
    apply List.map_congr_left
    intro id _
    have hpointer : mergedInto store key = none := by
      rw [mergedInto, hl, Option.bind_some, hunmerged]
    simp only [Function.comp_apply, relocate, mergedInto_afterMerge]
    by_cases hsame : id = key
    · subst hsame
      simp [hpointer]
    · simp [hsame, point_of_ne hsame]

theorem MessageKind.merge_ticketsIn (kind : MessageKind) {primaryId : String} {primaryKey : Uuid}
    (hkey : env.castUuid primaryId = some primaryKey) (sourceTicketIds : List String) (now : Nat)
    (store : TicketStore) :
    Ensures (merge env primaryId sourceTicketIds now) store fun _ after =>
      kind.ticketsIn after =
        (kind.ticketsIn store).map (relocate store primaryKey (sourceKeys env primaryId sourceTicketIds)) := by
  apply merge_ensures primaryId sourceTicketIds now store
  · intro other primary hother _
    obtain rfl := Option.some.inj (hkey.symm.trans hother)
    exact ⟨kind.mergeKeeps primaryId primaryKey primary.ticketNumber now _, rfl⟩
  · intro after hafter
    rw [← hafter]
    have hid : relocate after primaryKey (sourceKeys env primaryId []) = id := by
      funext other
      simp [relocate, sourceKeys]
    rw [hid, List.map_id]
  · intro after id body hafter
    rw [kind.ticketsIn_note]
    exact hafter

theorem merge_commits {store : TicketStore} {primaryId : String} {primaryKey : Uuid}
    {sourceTicketIds : List String} (hkey : env.castUuid primaryId = some primaryKey)
    (hmem : primaryKey ∈ store.tickets) (hknown : SourcesKnown env store primaryId sourceTicketIds)
    (now : Nat) : Commits (merge env primaryId sourceTicketIds now) store := by
  obtain ⟨primary, hl⟩ := Option.isSome_iff_exists.mp (AList.lookup_isSome.mpr hmem)
  obtain ⟨numbers, after, hrun, -⟩ := mergeSources_run env primaryId primaryKey
    primary.ticketNumber now sourceTicketIds [] store hknown
  refine .bind ⟨_, _, selectTicket_run env hkey store⟩ fun found middle hfound => ?_
  obtain ⟨rfl, rfl⟩ := Prod.mk.inj (Except.ok.inj ((selectTicket_run env hkey store).symm.trans hfound))
  rw [hl]
  refine .bind ⟨numbers, after, hrun⟩ fun _ _ _ => ?_
  split
  · exact ⟨_, _, rfl⟩
  · exact ⟨_, _, rfl⟩

-- What a merge of known tickets leaves of the messages of the kind.
theorem MessageKind.step_merge (kind : MessageKind) {store : TicketStore} {primaryId : String}
    {primaryKey : Uuid} {sourceTicketIds : List String} (hkey : env.castUuid primaryId = some primaryKey)
    (hmem : primaryKey ∈ store.tickets) (hknown : SourcesKnown env store primaryId sourceTicketIds)
    (now : Nat) : kind.ticketsIn (step env store (.merge primaryId sourceTicketIds now)) =
      (kind.ticketsIn store).map (relocate store primaryKey (sourceKeys env primaryId sourceTicketIds)) := by
  obtain ⟨_, after, hstep, hafter⟩ :=
    (merge_commits hkey hmem hknown now).ensures (kind.merge_ticketsIn hkey sourceTicketIds now store)
  rw [step, hstep]
  exact hafter

end Merge

section Rules

-- Rules write rows of the ticket they run on only, and no message of the kind.
theorem MessageKind.runRules (kind : MessageKind) (trigger : AutomationTrigger) (now : Nat) (id : Uuid)
    (ticket : Ticket) (before : TicketStore) :
    Ensures (runRules env trigger id ticket now) before fun _ after =>
      kind.ticketsIn after = kind.ticketsIn before ∧
        ∀ other, other ≠ id → after.tickets.lookup other = before.tickets.lookup other := by
  have hkeep : ActionsKeep env (fun _ _ => True) now id fun _ store =>
      kind.ticketsIn store = kind.ticketsIn before ∧
        ∀ other, other ≠ id → store.tickets.lookup other = before.tickets.lookup other := by
    intro ticket store action row after h _ hwrite
    cases hwrite with
    | kept hread => exact h
    | assigned field set found hfield hvalue hset hrow =>
        refine ⟨h.1, fun other hne => ?_⟩
        exact (AList.lookup_insert_ne hne).trans (h.2 other hne)
    | noted hfield => exact ⟨(kind.ticketsIn_note store id action.value now).trans h.1, h.2⟩
    | tagged found tag hfield hrow =>
        refine ⟨h.1, fun other hne => ?_⟩
        exact (AList.lookup_insert_ne hne).trans (h.2 other hne)
  exact hkeep.runRules trigger ticket before (rulesMeet_true env now id _ ticket before) ⟨rfl, fun _ _ => rfl⟩

-- A new ticket is unanswered and unmerged, and nothing else is other than before.
theorem MessageKind.create (kind : MessageKind) (dto : CreateTicketDto) (newIds : GeneratedIds) (now : Nat)
    (store : TicketStore) :
    Ensures (create env dto newIds now) store fun _ after =>
      kind.ticketsIn after = kind.ticketsIn store ∧ store.tickets.lookup newIds.ticketId = none ∧
        (∃ row, after.tickets.lookup newIds.ticketId = some row ∧ row.firstResponseAt = none ∧
          row.mergedIntoId = none) ∧
        ∀ other, other ≠ newIds.ticketId → after.tickets.lookup other = store.tickets.lookup other := by
  intro result after hr
  obtain ⟨row, hfresh, hfree, hrows⟩ := create_ensures env dto newIds now store result after hr
  obtain ⟨ticket, middle, hticket, -, hrules⟩ := create_writes env dto newIds now store result after hr
  obtain ⟨hagree, -⟩ := newTicket_ensures env dto newIds now store ticket middle hticket
  have htickets : middle.tickets = store.tickets := hagree.comp TicketStore.tickets
  have hmessages : middle.messages = store.messages := hagree.comp TicketStore.messages
  obtain ⟨hkind, hothers⟩ := kind.runRules .ticketCreated now newIds.ticketId ticket _ result after hrules
  refine ⟨hkind.trans (kind.ticketsIn_congr hmessages), hfree, ?_, fun other hne => ?_⟩
  · have hnew := hrows newIds.ticketId
    rw [if_pos rfl] at hnew
    obtain ⟨written, hwritten, hbeyond⟩ := Option.map_eq_some_iff.mp hnew
    have hunanswered := congrArg Ticket.firstResponseAt hbeyond
    have hunmerged := congrArg Ticket.mergedIntoId hbeyond
    exact ⟨written, hwritten, hunanswered.trans hfresh.unanswered, hunmerged.trans hfresh.unmerged⟩
  · rw [hothers other hne]
    dsimp only
    rw [AList.lookup_insert_ne hne, htickets]

end Rules

section AddMessage

theorem authorOf_reads (dto : AddTicketMessageDto) : Keeps Eq (authorOf env dto) := by
  unfold authorOf
  split
  · exact .pure _
  · exact (castUuid_reads env _).map
  · exact (assertBelongsToTenant_reads env _ _ _).map
  · exact (assertBelongsToTenant_reads env _ _ _).map
  · exact (castUuid_reads env _).map

-- The row after the first reply of an agent, and after any other message.
def answeredRow (dto : AddTicketMessageDto) (now : Nat) (ticket : Ticket) : Ticket :=
  if dto.type = .reply ∧ dto.authorType = .agent ∧ ticket.firstResponseAt = none then
    { ticket with firstResponseAt := some now }
  else ticket

theorem recordFirstResponse_writes {key : Uuid} {ticket : Ticket} (dto : AddTicketMessageDto) (now : Nat)
    (before : TicketStore) (hrow : before.tickets.lookup key = some ticket) :
    Ensures (recordFirstResponse key ticket dto now) before fun _ after => after.messages = before.messages ∧
      ∀ id, after.tickets.lookup id =
        if id = key then some (answeredRow dto now ticket) else before.tickets.lookup id := by
  unfold recordFirstResponse answeredRow
  split
  · rename_i hfirst
    simp only [Bool.and_eq_true, decide_eq_true_eq, Option.isNone_iff_eq_none, and_assoc] at hfirst
    rw [if_pos hfirst]
    refine (updateTicket_writes key _ before).bind ?_
    rintro _ _ (⟨-, -, hnone⟩ | ⟨row, hfound, -, rfl⟩)
    · rw [hrow] at hnone
      cases hnone
    · obtain rfl := Option.some.inj (hrow.symm.trans hfound)
      exact .pure ⟨rfl, fun id => Table.lookup_insert_eq _ _ _ _⟩
  · rename_i hfirst
    simp only [Bool.and_eq_true, decide_eq_true_eq, Option.isNone_iff_eq_none, and_assoc] at hfirst
    rw [if_neg hfirst]
    refine .pure ⟨rfl, fun id => ?_⟩
    split
    · rename_i hsame
      rw [hsame, hrow]
    · rfl

-- An added message stands at the end, on a ticket that is there, and is all that is
-- new but for the time of a first response.
theorem addMessage_writes (ticketId : String) (dto : AddTicketMessageDto) (now : Nat) (store : TicketStore) :
    Ensures (addMessage env runtime ticketId dto now) store fun message after => ∃ key ticket,
      env.castUuid ticketId = some key ∧ store.tickets.lookup key = some ticket ∧
      (message.ticketId = key ∧ message.type = dto.type ∧ message.authorType = dto.authorType) ∧
      after.messages = store.messages ++ [message] ∧
      ∀ id, after.tickets.lookup id =
        if id = key then some (answeredRow dto now ticket) else store.tickets.lookup id := by
  refine (selectTicket_ensures env ticketId store).bind ?_
  rintro result _ ⟨rfl, key, hkey, rfl⟩
  cases hl : store.tickets.lookup key with
  | none => exact .throw _
  | some ticket =>
      refine (authorOf_reads dto store).bind ?_
      rintro authorId _ rfl
      refine .modify_bind ?_
      refine (recordFirstResponse_writes dto now _ ?_).bind ?_
      · exact hl
      rintro _ after ⟨hmessages, htickets⟩
      exact .pure ⟨key, ticket, hkey, hl, ⟨rfl, rfl, rfl⟩, hmessages, htickets⟩

end AddMessage

end CloudOps.Ticketing
