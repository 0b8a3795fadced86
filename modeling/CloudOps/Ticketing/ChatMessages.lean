import CloudOps.ReadCommitted.Columns
import CloudOps.Ticketing.Chat

namespace CloudOps.Ticketing.Chat

open CloudOps.ReadCommitted

def messageEntry : ChatKey × ChatRow → Option (Uuid × ChatMessage)
  | (.message id, .message row) => some (id, row)
  | _ => none

-- The message of the session under an id.
def messageAt (tenantId sessionId : Uuid) (table : ChatTable) (id : Uuid) : Option ChatMessage :=
  ((table.lookup (.message id)).bind ChatRow.asMessage).filter fun row =>
    row.chatSessionId == sessionId && row.tenantId == tenantId

-- A step that writes no message but a new one, and only one that is allowed.
def AddsMessage (allowed : ChatMessage → Prop) (key : ChatKey) (old : Option ChatRow) (row : ChatRow) : Prop :=
  ∀ id, key = .message id → old = none ∧ ∀ message, row = .message message → allowed message

-- Every message of these writes is new, and one that is allowed.
def NewMessages (allowed : ChatMessage → Prop) (committed writes : ChatTable) : Prop :=
  ∀ id row, writes.lookup (.message id) = some row →
    ChatKey.message id ∉ committed ∧ ∀ message, row = .message message → allowed message

theorem mem_filterMap_messageEntry {rows : List (ChatKey × ChatRow)} {id : Uuid} {row : ChatMessage} :
    (id, row) ∈ rows.filterMap messageEntry ↔ (ChatKey.message id, ChatRow.message row) ∈ rows := by
  rw [List.mem_filterMap]
  constructor
  · rintro ⟨stored, hstored, hentry⟩
    unfold messageEntry at hentry
    split at hentry
    · obtain ⟨rfl, rfl⟩ := Prod.mk.inj (Option.some.inj hentry)
      exact hstored
    · cases hentry
  · exact fun h => ⟨_, h, rfl⟩

section Writes

variable {allowed : ChatMessage → Prop} {committed writes : ChatTable}

theorem NewMessages.empty (allowed : ChatMessage → Prop) (committed : ChatTable) :
    NewMessages allowed committed ∅ := by
  intro id row hrow
  simp at hrow

theorem NewMessages.write (h : NewMessages allowed committed writes) {key : ChatKey} {row : ChatRow}
    (hstep : AddsMessage allowed key ((writes ∪ committed).lookup key) row) :
    NewMessages allowed committed (writes.insert key row) := by
  intro id found hfound
  rw [Table.lookup_insert_eq] at hfound
  split at hfound
  · rename_i hsame
    obtain rfl := Option.some.inj hfound
    obtain ⟨hnew, hallowed⟩ := hstep id hsame.symm
    rw [AList.lookup_eq_none, AList.mem_union, not_or, ← hsame] at hnew
    exact ⟨hnew.2, hallowed⟩
  · exact h id found hfound

-- What the others publish meanwhile, they publish under other keys.
theorem NewMessages.stable {after : ChatTable} (h : NewMessages allowed committed writes)
    (hkept : ∀ key ∈ writes, after.lookup key = committed.lookup key) : NewMessages allowed after writes := by
  intro id row hrow
  obtain ⟨hnew, hallowed⟩ := h id row hrow
  refine ⟨?_, hallowed⟩
  rw [← AList.lookup_eq_none] at hnew ⊢
  exact (hkept _ (Table.mem_of_lookup hrow)).trans hnew

-- A committed message stays as it is.
theorem NewMessages.lookup_message (h : NewMessages allowed committed writes) {id : Uuid} {row : ChatRow}
    (hrow : committed.lookup (.message id) = some row) : (writes ∪ committed).lookup (.message id) = some row := by
  rw [Table.lookup_union]
  cases hown : writes.lookup (.message id) with
  | none => exact hrow
  | some own => exact absurd (Table.mem_of_lookup hrow) (h id own hown).1

theorem messageAt_eq_some {tenantId sessionId : Uuid} {table : ChatTable} {id : Uuid} {row : ChatMessage} :
    messageAt tenantId sessionId table id = some row ↔
      table.lookup (.message id) = some (.message row) ∧
        row.chatSessionId = sessionId ∧ row.tenantId = tenantId := by
  simp only [messageAt, Option.filter_eq_some_iff, Option.bind_eq_some_iff, Bool.and_eq_true, beq_iff_eq]
  refine and_congr_left fun _ => ⟨?_, fun h => ⟨.message row, h, rfl⟩⟩
  rintro ⟨stored, hstored, hrow⟩
  cases stored with
  | message found =>
      obtain rfl := Option.some.inj hrow
      exact hstored
  | session _ | lock _ => cases hrow

theorem NewMessages.messageAt_kept (h : NewMessages allowed committed writes) {tenantId sessionId id : Uuid}
    {row : ChatMessage} (hrow : messageAt tenantId sessionId committed id = some row) :
    messageAt tenantId sessionId (writes ∪ committed) id = some row := by
  obtain ⟨hlookup, hof⟩ := messageAt_eq_some.mp hrow
  exact messageAt_eq_some.mpr ⟨h.lookup_message hlookup, hof⟩

end Writes

section Code

variable (refs : ChatReferences) {allowed : ChatMessage → Prop} {tenantId : Uuid}

theorem addsMessage_session (id : Uuid) (old : Option ChatRow) (row : ChatRow) :
    AddsMessage allowed (.session id) old row := by
  simp [AddsMessage]

theorem changes_createSession (dto : CreateChatSessionDto) (startedAt : Nat) :
    (createSession refs tenantId dto startedAt).Changes (AddsMessage allowed) := by
  unfold createSession
  dsimp only
  split
  · trivial
  · refine ⟨fun id => fun messageId hid => ⟨rfl, fun message hmessage => nomatch hmessage⟩, fun result => ?_⟩
    cases result with
    | inserted key => cases key <;> trivial
    | duplicateKey => trivial

theorem changes_insertMessage {row : ChatMessage} (hrow : allowed row) :
    (insertMessage row).Changes (AddsMessage allowed) := by
  refine ⟨fun id messageId _ => ⟨rfl, fun message hmessage => ?_⟩, fun result => ?_⟩
  · obtain rfl := ChatRow.message.inj hmessage
    exact hrow
  · cases result with
    | inserted key => cases key <;> trivial
    | duplicateKey => trivial

theorem changes_addMessage (sessionId : Uuid) (dto : AddChatMessageDto) (startedAt : Nat)
    (hallowed : ∀ row : ChatMessage, row.authorType = dto.authorType.stored → allowed row) :
    (addMessage refs tenantId sessionId dto startedAt).Changes (AddsMessage allowed) := by
  refine (Prog.changes_query _).bind fun rows => ?_
  split
  · trivial
  · refine (changes_insertMessage (hallowed _ rfl)).bind fun _ => ?_
    refine ⟨fun old row _ => addsMessage_session sessionId old row, fun result => ?_⟩
    dsimp only [Prog.bind]
    split
    · split <;> trivial
    · trivial

theorem changes_closeSession (id : Uuid) : (closeSession tenantId id).Changes (AddsMessage allowed) := by
  refine ⟨fun old row _ => addsMessage_session id old row, fun result => ?_⟩
  dsimp only [Prog.bind]
  split <;> trivial

theorem changes_loadContext (sessionId : Uuid) : (loadContext tenantId sessionId).Changes (AddsMessage allowed) := by
  refine (Prog.changes_query _).bind fun rows => ?_
  split
  · trivial
  · exact (Prog.changes_query _).bind fun _ => trivial

theorem changes_answer (sessionId : Uuid) (reply : String) (startedAt : Nat)
    (hallowed : ∀ row : ChatMessage, row.chatSessionId = sessionId → row.tenantId = tenantId → allowed row) :
    (answer tenantId sessionId reply startedAt).Changes (AddsMessage allowed) := by
  have hlock : (takeLock sessionId).Changes (AddsMessage allowed) := by
    refine ⟨fun old row _ => ?_, fun _ => trivial⟩
    simp [AddsMessage]
  refine hlock.bind fun _ => (Prog.changes_query _).bind fun rows => ?_
  unfold afterLook
  split
  · trivial
  · refine (changes_insertMessage (hallowed _ rfl rfl)).bind fun _ => ?_
    exact ⟨fun old row _ => addsMessage_session sessionId old row, fun _ => trivial⟩

end Code

-- One tenant with an open session, and one agent.
def frontDesk : ChatReferences := ⟨fun _ => false, fun id => id == 7⟩

def openChat : ChatTable := (∅ : ChatTable).insert (.session 1) (.session
  { tenantId := 1
    visitorName := "Ann"
    contactId := none
    status := .opened
    assignedAgentId := none
    aiEnabled := true
    createdAt := 0
    lastMessageAt := 0 })

def visitorSays (body : String) : ChatCall := ⟨1, .addMessage 1 ⟨.visitor, none, body⟩⟩

def chatStatement (tid newId : Nat) : ChatEvent := .exec tid (.stored _) (.message newId)

end CloudOps.Ticketing.Chat
