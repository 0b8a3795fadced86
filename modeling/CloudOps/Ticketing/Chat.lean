import CloudOps.ReadCommitted.Rely
import CloudOps.Ticketing.TicketStore
import Mathlib.Data.List.Sort

namespace CloudOps.Ticketing.Chat

open CloudOps.ReadCommitted

inductive ChatStatus where
  | opened
  | closed
  deriving DecidableEq

inductive AuthorType where
  | visitor
  | agent
  | system
  | ai
  deriving DecidableEq

structure ChatSession where
  tenantId : Uuid
  visitorName : String
  contactId : Option Uuid
  status : ChatStatus
  assignedAgentId : Option Uuid
  aiEnabled : Bool
  createdAt : Nat
  lastMessageAt : Nat
  deriving DecidableEq

-- Times are microseconds, and now() is the transaction's start.
structure ChatMessage where
  tenantId : Uuid
  chatSessionId : Uuid
  authorType : AuthorType
  authorId : Option Uuid
  body : String
  createdAt : Nat
  deriving DecidableEq

-- An advisory lock is a row of its own, which each transaction that takes it writes anew.
inductive ChatKey where
  | session (id : Uuid)
  | message (id : Uuid)
  | lock (sessionId : Uuid)
  deriving DecidableEq

inductive ChatRow where
  | session (row : ChatSession)
  | message (row : ChatMessage)
  | lock (taken : Nat)
  deriving DecidableEq

abbrev ChatProg := Prog ChatKey ChatRow ServiceError

def sessionWithId (tenantId id : Uuid) : ChatKey → ChatRow → Bool
  | .session key, .session row => key == id && row.tenantId == tenantId
  | _, _ => false

def messageOf (tenantId sessionId : Uuid) : ChatKey → ChatRow → Bool
  | .message _, .message row => row.chatSessionId == sessionId && row.tenantId == tenantId
  | _, _ => false

def ChatRow.asSession : ChatRow → Option ChatSession
  | session row => some row
  | message _ | lock _ => none

def ChatRow.asMessage : ChatRow → Option ChatMessage
  | message row => some row
  | session _ | lock _ => none

def ChatRow.onSession (set : ChatSession → ChatSession) : ChatRow → ChatRow
  | session row => session (set row)
  | row => row

def sessionIn (rows : List (ChatKey × ChatRow)) : Option ChatSession := rows.findSome? fun row => row.2.asSession

-- ORDER BY created_at DESC
def newestFirst (rows : List (ChatKey × ChatRow)) : List ChatMessage :=
  (rows.filterMap fun row => row.2.asMessage).insertionSort fun first second => second.createdAt ≤ first.createdAt

-- INSERT INTO chat_messages
def insertMessage (row : ChatMessage) : ChatProg Unit := do
  match ← Prog.insertRow (.message row) with
  | .inserted (.message _) => return
  | _ => .throw (.error "duplicate key value violates unique constraint")

structure CreateChatSessionDto where
  visitorName : String
  contactId : Option Uuid

inductive DtoAuthorType where
  | visitor
  | agent
  | system
  deriving DecidableEq

def DtoAuthorType.stored : DtoAuthorType → AuthorType
  | visitor => .visitor
  | agent => .agent
  | system => .system

structure AddChatMessageDto where
  authorType : DtoAuthorType
  authorId : Option Uuid
  body : String

-- The tables the two services only refer to.
structure ChatReferences where
  isContact : Uuid → Bool
  isAgent : Uuid → Bool

variable (refs : ChatReferences) (tenantId : Uuid)

-- ChatService.createSession
def createSession (dto : CreateChatSessionDto) (startedAt : Nat) : ChatProg ChatSession :=
  let session : ChatSession :=
    { tenantId := tenantId
      visitorName := dto.visitorName
      contactId := dto.contactId
      status := .opened
      assignedAgentId := none
      aiEnabled := true
      createdAt := startedAt
      lastMessageAt := startedAt }
  if dto.contactId.any fun id => !refs.isContact id then
    .throw (.error "insert or update on table \"chat_sessions\" violates foreign key constraint")
  else do
    match ← Prog.insertRow (.session session) with
    | .inserted (.session _) => return session
    | _ => .throw (.error "duplicate key value violates unique constraint")

-- The UPDATE of addMessage: an agent's reply claims a session that no one has, and a
-- visitor's reopens it.
def bumpSession (dto : AddChatMessageDto) (startedAt : Nat) (session : ChatSession) : ChatSession :=
  { session with
    lastMessageAt := startedAt
    assignedAgentId :=
      if dto.authorType = .agent ∧ session.assignedAgentId = none then dto.authorId else session.assignedAgentId
    status := if dto.authorType = .visitor then .opened else session.status }

-- ChatService.addMessage
def addMessage (sessionId : Uuid) (dto : AddChatMessageDto) (startedAt : Nat) : ChatProg ChatMessage := do
  match sessionIn (← Prog.query (sessionWithId tenantId sessionId)) with
  | none => .throw (.notFound s!"Chat session {sessionId} not found")
  | some _ => do
      let message : ChatMessage :=
        { tenantId := tenantId
          chatSessionId := sessionId
          authorType := dto.authorType.stored
          authorId := dto.authorId
          body := dto.body
          createdAt := startedAt }
      insertMessage message
      match ← Prog.update (.session sessionId) (ChatRow.onSession (bumpSession dto startedAt)) with
      | some (.session session) =>
          if session.assignedAgentId.any fun id => !refs.isAgent id then
            .throw (.error "insert or update on table \"chat_sessions\" violates foreign key constraint")
          else return message
      | _ => return message

-- ChatService.closeSession
def closeSession (id : Uuid) : ChatProg ChatSession := do
  let closed ← Prog.updateWhere (.session id) (sessionWithId tenantId id (.session id))
    (ChatRow.onSession fun session => { session with status := .closed })
  match closed with
  | some (.session session) => return session
  | _ => .throw (.notFound s!"Chat session {id} not found")

def HISTORY_LIMIT : Nat := 12

structure ChatContext where
  status : ChatStatus
  aiEnabled : Bool
  assignedAgentId : Option Uuid
  messages : List ChatMessage

-- ChatAiResponderService.loadContext
def loadContext (sessionId : Uuid) : ChatProg (Option ChatContext) := do
  match sessionIn (← Prog.query (sessionWithId tenantId sessionId)) with
  | none => return none
  | some session => do
      let rows ← Prog.query (messageOf tenantId sessionId)
      let latest := (newestFirst rows).take HISTORY_LIMIT
      return some
        { status := session.status
          aiEnabled := session.aiEnabled
          assignedAgentId := session.assignedAgentId
          messages := latest.insertionSort fun first second => first.createdAt ≤ second.createdAt }

-- What respond asks of the context before it calls the model: the last visitor message has
-- no answer of the model after it.
def ChatContext.awaitsReply (context : ChatContext) : Bool :=
  let afterVisitor := context.messages.reverse.takeWhile fun message => message.authorType != .visitor
  decide (context.status = .opened) && context.aiEnabled && context.assignedAgentId.isNone &&
    context.messages.any (fun message => message.authorType == .visitor) &&
    !afterVisitor.any fun message => message.authorType == .ai

-- reply.slice(0, n), in UTF-16 units: half of a pair is not a character.
def slice : Nat → List Char → List Char
  | 0, _ | _, [] => []
  | n + 1, c :: rest =>
      if c.toNat < 0x10000 then c :: slice n rest
      else
        match n with
        | 0 => ['\uFFFD']
        | n + 1 => c :: slice n rest

-- What the INSERT of a reply has looked at: the session, and its newest message.
structure Look where
  session : ChatSession
  newest : ChatMessage
  deriving DecidableEq

def Look.allows (look : Look) : Bool :=
  decide (look.session.status = .opened) && look.session.aiEnabled && look.session.assignedAgentId.isNone &&
    look.newest.authorType == .visitor

def lookAt (rows : List (ChatKey × ChatRow)) : Option Look :=
  match sessionIn rows, (newestFirst rows).head? with
  | some session, some newest => some ⟨session, newest⟩
  | _, _ => none

def takenAgain : Option ChatRow → ChatRow
  | some (.lock taken) => .lock (taken + 1)
  | _ => .lock 1

-- pg_advisory_xact_lock
def takeLock (sessionId : Uuid) : ChatProg Unit :=
  .write (.lock sessionId) (fun old => some (takenAgain old)) fun _ => .ret ()

variable (sessionId : Uuid)

def lookedFor (key : ChatKey) (row : ChatRow) : Bool :=
  sessionWithId tenantId sessionId key row || messageOf tenantId sessionId key row

-- The INSERT of a reply, gated on the rows its SELECT has looked at, and the UPDATE after it.
def afterLook (reply : String) (startedAt : Nat) (rows : List (ChatKey × ChatRow)) : ChatProg (Option Look) :=
  match (lookAt rows).filter Look.allows with
  | none => return none
  | some look => do
      insertMessage
        { tenantId := tenantId
          chatSessionId := sessionId
          authorType := .ai
          authorId := none
          body := String.ofList (slice 4000 reply.toList)
          createdAt := startedAt }
      let _ ← Prog.update (.session sessionId) (ChatRow.onSession fun session =>
        { session with lastMessageAt := startedAt })
      return some look

-- The write transaction of respond, with what its INSERT has looked at if it inserts. The
-- statement looks at one snapshot of both tables; others may commit before it inserts.
def answer (reply : String) (startedAt : Nat) : ChatProg (Option Look) := do
  takeLock sessionId
  let rows ← Prog.query (lookedFor tenantId sessionId)
  afterLook tenantId sessionId reply startedAt rows

-- A responder is one run of respond: it loads the context, and may later write a reply.
inductive ChatRequest where
  | createSession (dto : CreateChatSessionDto)
  | addMessage (sessionId : Uuid) (dto : AddChatMessageDto)
  | closeSession (id : Uuid)
  | loadContext (responder : Nat) (sessionId : Uuid)
  | answer (responder : Nat) (sessionId : Uuid) (reply : String)

structure ChatCall where
  tenantId : Uuid
  request : ChatRequest

inductive ChatResult where
  | session (session : ChatSession)
  | message (message : ChatMessage)
  | context (context : Option ChatContext)
  | answered (look : Option Look)

def chatService : Service ChatKey ChatRow ServiceError ChatResult ChatCall where
  body call startedAt :=
    match call.request with
    | .createSession dto => (createSession refs call.tenantId dto startedAt).map .session
    | .addMessage sessionId dto => (addMessage refs call.tenantId sessionId dto startedAt).map .message
    | .closeSession id => (closeSession call.tenantId id).map .session
    | .loadContext _ sessionId => (loadContext call.tenantId sessionId).map .context
    | .answer _ sessionId reply => (answer call.tenantId sessionId reply startedAt).map .answered
  conflict _ _ := false

abbrev ChatTable := Table ChatKey ChatRow
abbrev ChatWorld := World ChatKey ChatRow ChatResult ChatCall
abbrev ChatDb := Db ChatKey ChatRow ServiceError ChatResult ChatCall
abbrev ChatEvent := Event ChatKey ChatRow ChatCall

-- The responder has a context that asks for a reply, and a reply that is not empty.
def mayAnswer (world : ChatWorld) (tenantId : Uuid) (responder : Nat) (sessionId : Uuid) (reply : String) : Bool :=
  reply ≠ "" && world.returned.any fun done =>
    match done.call.request, done.value with
    | .loadContext other loaded, .context (some context) =>
        other == responder && loaded == sessionId && done.call.tenantId == tenantId && context.awaitsReply
    | _, _ => false

def admits (world : ChatWorld) : ChatEvent → Bool
  | .begin _ ⟨tenantId, .answer responder sessionId reply⟩ => mayAnswer world tenantId responder sessionId reply
  | .begin .. | .exec .. | .commit _ | .rollback _ | .tick _ => true

def step (db : ChatDb) (event : ChatEvent) : ChatDb :=
  if admits db.world event then db.step (chatService refs) event else db

end CloudOps.Ticketing.Chat
