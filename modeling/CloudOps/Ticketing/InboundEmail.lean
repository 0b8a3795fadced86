import CloudOps.Ticketing.HelpDesk

namespace CloudOps.Ticketing

open CloudOps.ReadCommitted CloudOps.Transaction

-- What simpleParser makes of an address and of an email; a part that is missing is
-- none, and so is an html part that is false.
structure MailAddress where
  name : String
  address : Option String

structure ParsedMail where
  fromValue : List MailAddress
  subject : Option String
  text : Option String
  html : Option String

structure AddTicketMessageDto where
  type : MessageType
  authorType : AuthorType
  authorId : Option String
  body : String
  cc : Option (List String)

structure ProcessInboundEmailResult where
  ticketId : String
  ticketNumber : Nat
  created : Bool
  deriving DecidableEq

-- The text begins with the needle, its letters in either case.
def beginsWith (needle text : List Char) : Bool := (text.take needle.length).map Char.toLower == needle

def offsetOf (needle : List Char) : List Char → Option Nat
  | [] => none
  | c :: rest => if beginsWith needle (c :: rest) then some 0 else (offsetOf needle rest).map (· + 1)

-- text.replace(pattern, replacement) for a global pattern, which is given by how much
-- it matches at the head of a text, 0 where it does not. The count skips the rest of a
-- match.
def replaceMatches (matchLength : List Char → Nat) (replacement : List Char) : Nat → List Char → List Char
  | _, [] => []
  | skip + 1, _ :: rest => replaceMatches matchLength replacement skip rest
  | 0, c :: rest =>
      match matchLength (c :: rest) with
      | 0 => c :: replaceMatches matchLength replacement 0 rest
      | length + 1 => replacement ++ replaceMatches matchLength replacement length rest

-- /<style[\s\S]*?<\/style>/gi
def styleLength (text : List Char) : Nat :=
  let opening := "<style".toList
  let closing := "</style>".toList
  if beginsWith opening text then
    (offsetOf closing (text.drop opening.length)).elim 0 fun offset => opening.length + offset + closing.length
  else 0

-- /<[^>]+>/g
def tagLength : List Char → Nat
  | '<' :: rest =>
      let inner := rest.takeWhile fun c => c ≠ '>'
      if inner.isEmpty || (rest.drop inner.length).isEmpty then 0 else inner.length + 2
  | _ => 0

-- /\s+/g
def spaceLength (text : List Char) : Nat := (text.takeWhile isWhiteSpace).length

def stripHtml (html : String) : String :=
  let withoutStyles := replaceMatches styleLength [] 0 html.toList
  let withoutTags := replaceMatches tagLength [' '] 0 withoutStyles
  trim (.ofList (replaceMatches spaceLength [' '] 0 withoutTags))

def extractBody (parsed : ParsedMail) : String :=
  match parsed.text.filter fun text => text ≠ "", parsed.html with
  | some text, _ => trim text
  | none, some html => stripHtml html
  | none, none => "(empty message body)"

-- TICKET_REFERENCE_RE at the head of a text: the number between the brackets.
def ticketReference (text : List Char) : Option Nat :=
  let tag := "[ticket #".toList
  let digits := (text.drop tag.length).takeWhile Char.isDigit
  let closed := (text.drop (tag.length + digits.length)).head? == some ']'
  if beginsWith tag text && !digits.isEmpty && closed then
    some (digits.foldl (fun number digit => 10 * number + (digit.toNat - '0'.toNat)) 0)
  else none

def firstReference : List Char → Option Nat
  | [] => none
  | c :: rest => (ticketReference (c :: rest)).or (firstReference rest)

def extractReferencedTicketNumber (subject : String) : Option Nat := firstReference subject.toList

-- TicketsService.findByTicketNumber. The column is an int.
def findByTicketNumber (ticketNumber : Nat) : TicketM (Option (Uuid × Ticket)) := do
  if 2147483647 < ticketNumber then throw (.error "value is out of range for type integer")
  let store ← get
  return store.tickets.rows.find? fun row => row.2.ticketNumber == ticketNumber

variable (env : Environment) (runtime : Runtime)

-- An agent and a contact must be the tenant's; the column is a uuid.
def authorOf (dto : AddTicketMessageDto) : TicketM (Option Uuid) :=
  match dto.authorId, dto.authorType with
  | none, _ => pure none
  | some "", _ => some <$> castUuid env ""
  | some text, .agent => some <$> assertBelongsToTenant env hasAgent text "agent"
  | some text, .contact => some <$> assertBelongsToTenant env hasContact text "contact"
  | some text, .system => some <$> castUuid env text

-- The first reply of an agent is the ticket's first response.
def recordFirstResponse (key : Uuid) (ticket : Ticket) (dto : AddTicketMessageDto) (now : Nat) : TicketM Unit :=
  if dto.type = .reply && dto.authorType = .agent && ticket.firstResponseAt.isNone then do
    let _ ← updateTicket key fun row => { row with firstResponseAt := some now }
  else pure ()

-- TicketsService.addMessage up to its commit; what is mailed and published after it is
-- left out.
def addMessage (ticketId : String) (dto : AddTicketMessageDto) (now : Nat) : TicketM TicketMessage := do
  match ← selectTicket env ticketId with
  | none => throw (.notFound s!"Ticket {ticketId} not found")
  | some (key, ticket) =>
      let authorId ← authorOf env dto
      let message : TicketMessage :=
        { ticketId := key
          type := dto.type
          authorType := dto.authorType
          authorId := authorId
          body := runtime.sanitizeHtml dto.body
          cc := dto.cc.getD []
          createdAt := now }
      insertMessage message
      recordFirstResponse key ticket dto now
      return message

-- Where an invocation of processInboundEmail stands between its transactions, and what
-- it has come to.
inductive Intake where
  | create (dto : CreateTicketDto) (body : String)
  | addMessage (ticketId : String) (dto : AddTicketMessageDto) (result : ProcessInboundEmailResult)
  | done (result : ProcessInboundEmailResult)
  | failed (error : ServiceError)

def emailTicket (subject : String) (sender : MailAddress) (address : String) : CreateTicketDto where
  subject := subject
  contactId := none
  contact := some
    { name := if sender.name = "" then address else sender.name
      email := address }
  source := .email
  sourceDetail := none
  ticketTypeId := none
  groupId := none
  agentId := none
  requiredSkill := none
  resourceId := none
  priority := none
  platform := none
  tags := none
  customFields := []

def contactReply (authorId : Option String) (body : String) : AddTicketMessageDto where
  type := .reply
  authorType := .contact
  authorId := authorId
  body := body
  cc := none

-- processInboundEmail up to the look-up of the ticket that the subject refers to.
def processInboundEmail (parsed : ParsedMail) (store : TicketStore) : Intake :=
  match parsed.fromValue.head?.bind fun sender =>
      (sender.address.filter fun address => address ≠ "").map fun address => (sender, address) with
  | none => .failed (.error "Inbound email has no From address; cannot resolve a contact")
  | some (sender, address) =>
      let subject := parsed.subject.getD "(no subject)"
      let body := extractBody parsed
      match extractReferencedTicketNumber subject with
      | none => .create (emailTicket subject sender address) body
      | some ticketNumber =>
          match (findByTicketNumber ticketNumber).run store with
          | .error error => .failed error
          | .ok (none, _) => .create (emailTicket subject sender address) body
          | .ok (some (id, existing), _) =>
              .addMessage (env.uuidText id) (contactReply none body)
                ⟨env.uuidText id, existing.ticketNumber, false⟩

-- Its next transaction, with what follows it.
def Intake.proceed (newIds : GeneratedIds) (now : Nat) (store : TicketStore) : Intake → Intake × TicketStore
  | create dto body =>
      match (Ticketing.create env dto newIds now).run store with
      | .error error => (failed error, store)
      | .ok (ticket, after) =>
          let id := env.uuidText newIds.ticketId
          (addMessage id (contactReply (env.uuidText ticket.contactId) body)
            ⟨id, ticket.ticketNumber, true⟩, after)
  | addMessage ticketId dto result =>
      match (Ticketing.addMessage env runtime ticketId dto now).run store with
      | .error error => (failed error, store)
      | .ok (_, after) => (done result, after)
  | done result => (done result, store)
  | failed error => (failed error, store)

-- The tenant's tickets, and the emails that have been taken in.
structure Mailroom where
  store : TicketStore
  intakes : List Intake

-- An email arrives, or one that has arrived gets on; in between, and between any two
-- of its transactions, the service is called.
inductive MailroomEvent where
  | tickets (call : TicketCall)
  | receive (parsed : ParsedMail)
  | proceed (index : Nat) (newIds : GeneratedIds) (now : Nat)

def Mailroom.step (room : Mailroom) : MailroomEvent → Mailroom
  | .tickets call => { room with store := Ticketing.step env room.store call }
  | .receive parsed => { room with intakes := room.intakes ++ [processInboundEmail env parsed room.store] }
  | .proceed index newIds now =>
      match room.intakes[index]? with
      | none => room
      | some intake =>
          let next := intake.proceed env runtime newIds now room.store
          { store := next.2, intakes := room.intakes.set index next.1 }

-- An html email, and a reply in the words the helpdesk puts in a subject.
example : stripHtml "<style>p \x7b\x7d</style><p>Hello <b>there</b>,</p>\n\n<p>2 < 3" =
    "Hello there , 2 < 3" ∧
    extractReferencedTicketNumber "RE: [ticket #x] [TICKET #0042] printer" = some 42 := by decide +kernel

end CloudOps.Ticketing
