import CloudOps.Ticketing.Conversation
import CloudOps.Ticketing.ResolvedAt

namespace CloudOps.Ticketing

open CloudOps.ReadCommitted CloudOps.Transaction CloudOps.Pointers

variable (env : Environment) (runtime : Runtime)

def RepliesOnSurvivors (store : TicketStore) : Prop :=
  ∀ message ∈ store.messages, message.type = .reply → Unmerged store message.ticketId

-- A merge that moves replies moves them to another ticket that is merged into none,
-- and no email's reply is added to a ticket that has been merged.
def RepliesToSurvivor (room : Mailroom) : MailroomEvent → Prop
  | .tickets (.merge primaryId sourceTicketIds _) =>
      Known env room.store primaryId → SourcesKnown env room.store primaryId sourceTicketIds →
      (∃ message ∈ room.store.messages, message.type = .reply ∧
        message.ticketId ∈ sourceKeys env primaryId sourceTicketIds) →
      ∀ primaryKey, env.castUuid primaryId = some primaryKey →
        Unmerged room.store primaryKey ∧ primaryKey ∉ sourceKeys env primaryId sourceTicketIds
  | .proceed index _ now =>
      match room.intakes[index]? with
      | some (.addMessage ticketId dto _) =>
          Commits (addMessage env runtime ticketId dto now) room.store → dto.type = .reply →
          ∀ key, env.castUuid ticketId = some key → Unmerged room.store key
      | _ => True
  | .tickets (.create ..) | .tickets (.update ..) | .receive _ => True

-- The tickets of the replies, in the messages' order.
def replyTickets (store : TicketStore) : List Uuid :=
  (store.messages.filter fun message => message.type = .reply).map TicketMessage.ticketId

theorem repliesOnSurvivors_iff {store : TicketStore} :
    RepliesOnSurvivors store ↔ ∀ id ∈ replyTickets store, Unmerged store id := by
  simp only [RepliesOnSurvivors, replyTickets, List.mem_map, List.mem_filter, decide_eq_true_eq]
  constructor
  · rintro h id ⟨message, ⟨hmem, htype⟩, rfl⟩
    exact h message hmem htype
  · intro h message hmem htype
    exact h message.ticketId ⟨message, ⟨hmem, htype⟩, rfl⟩

-- A row that is written keeps its pointer, or is new and has none.
theorem Unmerged.insert {store after : TicketStore} {id other : Uuid} {written : Ticket}
    (htickets : after.tickets = store.tickets.insert id written)
    (hkept : ∀ row, store.tickets.lookup id = some row → written.mergedIntoId = row.mergedIntoId)
    (h : Unmerged store other) : Unmerged after other := by
  obtain ⟨ticket, hl, hnull⟩ := h
  by_cases hsame : other = id
  · subst hsame
    refine ⟨written, ?_, (hkept ticket hl).trans hnull⟩
    rw [htickets, Table.lookup_insert_eq, if_pos rfl]
  · refine ⟨ticket, ?_, hnull⟩
    rw [htickets, Table.lookup_insert_eq, if_neg hsame]
    exact hl

theorem RepliesOnSurvivors.insert {store after : TicketStore} (h : RepliesOnSurvivors store) {id : Uuid}
    {written : Ticket} (htickets : after.tickets = store.tickets.insert id written)
    (hkept : ∀ row, store.tickets.lookup id = some row → written.mergedIntoId = row.mergedIntoId)
    (hreplies : replyTickets after = replyTickets store) : RepliesOnSurvivors after := by
  rw [repliesOnSurvivors_iff] at h ⊢
  rw [hreplies]
  exact fun other hother => (h other hother).insert htickets hkept

theorem RepliesOnSurvivors.congr {store after : TicketStore} (h : RepliesOnSurvivors store)
    (htickets : after.tickets = store.tickets) (hreplies : replyTickets after = replyTickets store) :
    RepliesOnSurvivors after := by
  rw [repliesOnSurvivors_iff] at h ⊢
  rw [hreplies]
  intro id hid
  unfold Unmerged
  rw [htickets]
  exact h id hid

-- Replies are a kind of message.
def replies : MessageKind where
  is message := message.type = .reply
  moves _ _ := rfl
  noNote _ _ _ := rfl

variable {env}

theorem repliesOnSurvivors_actions (now : Nat) (id : Uuid) :
    ActionsKeep env (fun _ _ => True) now id fun _ store => RepliesOnSurvivors store := by
  intro ticket before action row after h _ hwrite
  cases hwrite with
  | kept hread => exact h
  | assigned field set found hfield hvalue hset hrow =>
      refine h.insert rfl (fun other hother => ?_) rfl
      obtain rfl := Option.some.inj (hrow.symm.trans hother)
      cases hset <;> rfl
  | noted hfield => exact h.congr rfl (replies.ticketsIn_note before id action.value now)
  | tagged found tag hfield hrow =>
      refine h.insert rfl (fun other hother => ?_) rfl
      obtain rfl := Option.some.inj (hrow.symm.trans hother)
      rfl

theorem runRules_repliesOnSurvivors (trigger : AutomationTrigger) (now : Nat) (id : Uuid) (ticket : Ticket)
    {store : TicketStore} (h : RepliesOnSurvivors store) :
    Ensures (runRules env trigger id ticket now) store fun _ after => RepliesOnSurvivors after :=
  (repliesOnSurvivors_actions now id).runRules trigger ticket store (rulesMeet_true env now id _ ticket store) h

theorem create_repliesOnSurvivors (dto : CreateTicketDto) (newIds : GeneratedIds) (now : Nat)
    {store : TicketStore} (h : RepliesOnSurvivors store) :
    Ensures (create env dto newIds now) store fun _ after => RepliesOnSurvivors after := by
  refine (create_writes env dto newIds now store).mono ?_
  rintro result after ⟨ticket, middle, hticket, hfree, hrules⟩
  obtain ⟨hagree, -⟩ := newTicket_ensures env dto newIds now store ticket middle hticket
  have hmessages : middle.messages = store.messages := hagree.comp TicketStore.messages
  have hreplies : replyTickets middle = replyTickets store := by
    unfold replyTickets
    rw [hmessages]
  have hmiddle : RepliesOnSurvivors middle := h.congr (hagree.comp TicketStore.tickets) hreplies
  have hinserted : RepliesOnSurvivors (putTicket newIds.ticketId ticket middle) := by
    refine hmiddle.insert rfl (fun row hrow => ?_) rfl
    rw [hfree] at hrow
    cases hrow
  exact runRules_repliesOnSurvivors .ticketCreated now _ ticket hinserted result after hrules

theorem updated_mergedIntoId {id : String} {dto : UpdateTicketDto} {now : Nat} {before : TicketStore}
    {key : Uuid} {existing : Ticket} {edits : Edits}
    (hedits : EditsFor env id dto now before key existing edits) :
    (edits.updated now existing).mergedIntoId = existing.mergedIntoId := by
  obtain ⟨customFields, hrow⟩ := hedits.updated_eq
  obtain ⟨slaPolicyId, firstResponseDueAt, resolutionDueAt, hsla⟩ :=
    withSla_eq (recalculateSla env before existing (dto.ticketTypeId.resolve env)) _
  rw [hrow, hsla]

theorem update_repliesOnSurvivors (id : String) (dto : UpdateTicketDto) (actorAgentId : Option Uuid)
    (now : Nat) {store : TicketStore} (h : RepliesOnSurvivors store) :
    Ensures (update env id dto actorAgentId now) store fun _ after => RepliesOnSurvivors after := by
  refine (update_writes env id dto actorAgentId now store).mono ?_
  rintro outcome after ⟨key, existing, edits, hedits, ⟨-, rfl⟩ | ⟨-, hrules⟩⟩
  · exact h
  · have hrequested : RepliesOnSurvivors
        (requested key (edits.updated now existing) actorAgentId edits.changes store) := by
      refine h.insert rfl (fun row hrow => ?_) rfl
      obtain rfl := Option.some.inj (hedits.row.symm.trans hrow)
      exact updated_mergedIntoId hedits
    exact runRules_repliesOnSurvivors .ticketUpdated now _ _ hrequested outcome.result after hrules

-- What a merge of known tickets leaves of the replies and the pointers.
theorem step_merge_replies {store : TicketStore} {primaryId : String} {primaryKey : Uuid}
    {sourceTicketIds : List String} (hkey : env.castUuid primaryId = some primaryKey)
    (hmem : primaryKey ∈ store.tickets) (hknown : SourcesKnown env store primaryId sourceTicketIds)
    (now : Nat) : replyTickets (step env store (.merge primaryId sourceTicketIds now)) =
      (replyTickets store).map (relocate store primaryKey (sourceKeys env primaryId sourceTicketIds)) :=
  replies.step_merge hkey hmem hknown now

-- A merge leaves every reply with a survivor exactly if it moves them to one.
theorem merge_repliesOnSurvivors_iff {store : TicketStore} (h : RepliesOnSurvivors store) {primaryId : String}
    {primaryKey : Uuid} {sourceTicketIds : List String} (hkey : env.castUuid primaryId = some primaryKey)
    (hmem : primaryKey ∈ store.tickets) (hknown : SourcesKnown env store primaryId sourceTicketIds)
    (now : Nat) : RepliesOnSurvivors (step env store (.merge primaryId sourceTicketIds now)) ↔
      ((∃ id ∈ replyTickets store, id ∈ sourceKeys env primaryId sourceTicketIds) →
        Unmerged store primaryKey ∧ primaryKey ∉ sourceKeys env primaryId sourceTicketIds) := by
  have hmerged := step_merge_known env hkey hmem hknown now
  rw [repliesOnSurvivors_iff] at h ⊢
  rw [step_merge_replies hkey hmem hknown now]
  constructor
  · rintro hafter ⟨id, hid, hsource⟩
    have hrelocated : relocate store primaryKey (sourceKeys env primaryId sourceTicketIds) id = primaryKey :=
      if_pos ⟨hsource, (unmerged_iff.mp (h id hid)).2⟩
    have hprimary := hafter _ (List.mem_map_of_mem hid)
    rw [hrelocated] at hprimary
    exact (hmerged.unmerged_iff primaryKey).mp hprimary
  · intro hmoves other hother
    obtain ⟨id, hid, rfl⟩ := List.mem_map.mp hother
    rw [hmerged.unmerged_iff]
    by_cases hsource : id ∈ sourceKeys env primaryId sourceTicketIds
    · have hrelocated : relocate store primaryKey (sourceKeys env primaryId sourceTicketIds) id = primaryKey :=
        if_pos ⟨hsource, (unmerged_iff.mp (h id hid)).2⟩
      rw [hrelocated]
      exact hmoves ⟨id, hid, hsource⟩
    · have hkept : relocate store primaryKey (sourceKeys env primaryId sourceTicketIds) id = id :=
        if_neg fun hboth => hsource hboth.1
      rw [hkept]
      exact ⟨h id hid, hsource⟩

theorem exists_reply_iff {store : TicketStore} {keys : List Uuid} :
    (∃ id ∈ replyTickets store, id ∈ keys) ↔
      ∃ message ∈ store.messages, message.type = .reply ∧ message.ticketId ∈ keys := by
  simp [replyTickets, and_assoc]

theorem answeredRow_mergedIntoId (dto : AddTicketMessageDto) (now : Nat) (ticket : Ticket) :
    (answeredRow dto now ticket).mergedIntoId = ticket.mergedIntoId := by
  unfold answeredRow
  split <;> rfl

theorem addMessage_ensures (ticketId : String) (dto : AddTicketMessageDto) (now : Nat) (store : TicketStore) :
    Ensures (addMessage env runtime ticketId dto now) store fun _ after =>
      ∃ key, env.castUuid ticketId = some key ∧
        replyTickets after = replyTickets store ++ (if dto.type = .reply then [key] else []) ∧
        ∀ id, Unmerged after id ↔ Unmerged store id := by
  refine (addMessage_writes runtime ticketId dto now store).mono ?_
  rintro message after ⟨key, ticket, hkey, hl, ⟨rfl, htype, -⟩, hmessages, htickets⟩
  refine ⟨_, hkey, ?_, fun id => ?_⟩
  · refine (replies.ticketsIn_append hmessages).trans ?_
    simp [replies, htype, replyTickets, MessageKind.ticketsIn]
  · unfold Unmerged
    rw [htickets]
    by_cases hsame : id = message.ticketId
    · subst hsame
      simp [hl, answeredRow_mergedIntoId]
    · rw [if_neg hsame]

-- An added message leaves every reply with a survivor exactly if its own is with one.
theorem addMessage_repliesOnSurvivors_iff {store after : TicketStore} (h : RepliesOnSurvivors store)
    {ticketId : String} {dto : AddTicketMessageDto} {now : Nat} {message : TicketMessage}
    (hrun : (addMessage env runtime ticketId dto now).run store = .ok (message, after)) :
    RepliesOnSurvivors after ↔
      (dto.type = .reply → ∀ key, env.castUuid ticketId = some key → Unmerged store key) := by
  obtain ⟨key, hkey, hreplies, hunmerged⟩ := addMessage_ensures runtime ticketId dto now store message after hrun
  rw [repliesOnSurvivors_iff] at h ⊢
  rw [hreplies]
  constructor
  · intro hafter htype other hother
    obtain rfl := Option.some.inj (hkey.symm.trans hother)
    rw [if_pos htype] at hafter
    exact (hunmerged key).mp (hafter key (by simp))
  · intro hreply id hid
    rw [hunmerged]
    rcases List.mem_append.mp hid with hold | hnew
    · exact h id hold
    · by_cases htype : dto.type = .reply
      · rw [if_pos htype, List.mem_singleton] at hnew
        exact hnew ▸ hreply htype key hkey
      · rw [if_neg htype] at hnew
        cases hnew

-- Each event leaves every reply with a survivor exactly if it moves and adds replies
-- to survivors only.
theorem step_repliesOnSurvivors_iff (room : Mailroom) (event : MailroomEvent)
    (h : RepliesOnSurvivors room.store) :
    RepliesOnSurvivors (room.step env runtime event).store ↔ RepliesToSurvivor env runtime room event := by
  cases event with
  | tickets call =>
      cases call with
      | create dto newIds now =>
          exact iff_of_true ((create_repliesOnSurvivors dto newIds now h).commit h) trivial
      | update id dto actorAgentId now =>
          exact iff_of_true ((update_repliesOnSurvivors id dto actorAgentId now h).commit h) trivial
      | merge primaryId sourceTicketIds now =>
          by_cases hboth : Known env room.store primaryId ∧ SourcesKnown env room.store primaryId sourceTicketIds
          · obtain ⟨hprimary, hsources⟩ := hboth
            obtain ⟨primaryKey, hkey, hmem⟩ := id hprimary
            refine (merge_repliesOnSurvivors_iff h hkey hmem hsources now).trans ?_
            rw [exists_reply_iff]
            constructor
            · intro hmoves _ _ hreply other hother
              obtain rfl := Option.some.inj (hkey.symm.trans hother)
              exact hmoves hreply
            · exact fun hcondition hreply => hcondition hprimary hsources hreply primaryKey hkey
          · refine iff_of_true ?_ fun hprimary hsources => absurd ⟨hprimary, hsources⟩ hboth
            have hsame : (room.step env runtime (.tickets (.merge primaryId sourceTicketIds now))).store =
                room.store := step_merge_unknown env hboth
            rw [hsame]
            exact h
  | receive parsed => exact iff_of_true h trivial
  | proceed index newIds now =>
      simp only [Mailroom.step, RepliesToSurvivor]
      cases hintake : room.intakes[index]? with
      | none => exact iff_of_true h trivial
      | some intake =>
          cases intake with
          | done result => exact iff_of_true h trivial
          | failed error => exact iff_of_true h trivial
          | create dto body =>
              refine iff_of_true ?_ trivial
              dsimp only [Intake.proceed]
              split
              · exact h
              · rename_i ticket after hrun
                exact create_repliesOnSurvivors dto newIds now h ticket after hrun
          | addMessage ticketId dto result =>
              dsimp only [Intake.proceed]
              split
              · rename_i error hrun
                refine iff_of_true h ?_
                rintro ⟨message, after, hcommits⟩
                rw [hrun] at hcommits
                cases hcommits
              · rename_i message after hrun
                refine (addMessage_repliesOnSurvivors_iff runtime h hrun).trans ?_
                exact ⟨fun hreply _ => hreply, fun hreply => hreply ⟨message, after, hrun⟩⟩

abbrev OfRoom (inv : TicketStore → Prop) (room : Mailroom) : Prop := inv room.store

-- Every reply stays with a ticket that is merged into none in exactly the runs in
-- which merges move, and emails add, replies to such tickets only.
theorem replies_on_survivors_iff (env : Environment) (room : Mailroom)
    (hstart : RepliesOnSurvivors room.store) (events : List MailroomEvent) :
    Runs.Always (Mailroom.step env runtime) (fun room => RepliesOnSurvivors room.store) room events ↔
      Runs.AllSteps (Mailroom.step env runtime) (RepliesToSurvivor env runtime) room events := by
  have hinv : OfRoom RepliesOnSurvivors room := hstart
  apply Runs.always_iff_allSteps events hinv
  · exact fun _ h => h
  · exact fun room event h hcondition => (step_repliesOnSurvivors_iff runtime room event h).mpr hcondition
  · exact fun room event h hafter => (step_repliesOnSurvivors_iff runtime room event h).mp hafter

def twoTicketsRoom : Mailroom := ⟨twoTickets, []⟩

-- A customer answers, and the subject refers to the second ticket.
def answerToSecond : ParsedMail where
  fromValue := [⟨"Ann", some "ann@example.com"⟩]
  subject := some "Re: [Ticket #2] Printer on fire"
  text := some "It is out now."
  html := none

def threadSecond : List MailroomEvent := [.receive answerToSecond, .proceed 0 ⟨3, 3⟩ 10]

def mergeSecondIntoFirst : MailroomEvent := .tickets (.merge firstId [secondId] 20)

theorem twoTickets_no_replies : RepliesOnSurvivors twoTicketsRoom.store := by
  intro message hmem
  cases hmem

theorem unmerged_of_twoIds {text : String} {key : Uuid} (hkey : twoIds.castUuid text = some key) :
    Unmerged twoTickets key := by
  simp only [twoIds] at hkey
  split at hkey
  · obtain rfl := Option.some.inj hkey
    exact ⟨unmergedTicket 1, by decide +kernel, rfl⟩
  · split at hkey
    · obtain rfl := Option.some.inj hkey
      exact ⟨unmergedTicket 2, by decide +kernel, rfl⟩
    · cases hkey

theorem threadThenMerge_on_survivors :
    Runs.Always (Mailroom.step twoIds plainRuntime) (fun room => RepliesOnSurvivors room.store) twoTicketsRoom
      (threadSecond ++ [mergeSecondIntoFirst]) := by
  refine (replies_on_survivors_iff plainRuntime twoIds twoTicketsRoom twoTickets_no_replies _).mpr
    ⟨trivial, ?_, ?_, trivial⟩
  · simp only [RepliesToSurvivor]
    split
    · exact fun _ _ key hkey => unmerged_of_twoIds hkey
    · trivial
  · intro _ _ _ primaryKey hkey
    obtain rfl : 1 = primaryKey := Option.some.inj hkey
    refine ⟨?_, by decide⟩
    let before := Runs.run (Mailroom.step twoIds plainRuntime) twoTicketsRoom threadSecond
    have hnull : (before.store.tickets.lookup 1).map Ticket.mergedIntoId = some none := by decide +kernel
    exact Option.map_eq_some_iff.mp hnull

-- After the merge the subject still finds the second ticket, and the reply is added
-- to it.
theorem threading_after_merge_misses_survivor :
    ¬ Runs.Always (Mailroom.step twoIds plainRuntime) (fun room => RepliesOnSurvivors room.store) twoTicketsRoom
      (mergeSecondIntoFirst :: threadSecond) := by
  intro h
  let after := Runs.run (Mailroom.step twoIds plainRuntime) twoTicketsRoom (mergeSecondIntoFirst :: threadSecond)
  have hafter : RepliesOnSurvivors after.store := h.last
  have hreply : 2 ∈ replyTickets after.store := by decide +kernel
  obtain ⟨ticket, hl, hnull⟩ := repliesOnSurvivors_iff.mp hafter 2 hreply
  have hmerged : (after.store.tickets.lookup 2).map Ticket.mergedIntoId = some (some 1) := by decide +kernel
  rw [hl, Option.map_some, hnull] at hmerged
  cases hmerged

end CloudOps.Ticketing
