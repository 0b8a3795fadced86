import CloudOps.Effects
import CloudOps.Js.Value
import CloudOps.ReadCommitted.Table
import CloudOps.Ticketing.ReportBuilder
import CloudOps.Ticketing.Ticket

namespace CloudOps.Ai.Ask

open CloudOps.Js (Value isStrWhiteSpace numberToString property trimmed)
open CloudOps.Effects (EffectM exec)
open CloudOps.Js (Value)
open CloudOps.ReadCommitted (Table)
open CloudOps.Ticketing (Uuid)
open CloudOps.Ticketing.Reports (sliceUnits)

structure AskTool where
  name : String
  description : String
  paramsSchema : String

def ASK_TOOLS : List AskTool :=
  [⟨"search_tickets", "Search support tickets by keyword, status, or priority.",
      "\x7b\"q\": \"string\", \"status\": \"string (optional)\", \"limit\": \"number (optional, max 20)\"\x7d"⟩,
    ⟨"list_alerts", "List monitoring alerts, optionally filtered by status (open/acknowledged/resolved).",
      "\x7b\"status\": \"string (optional: open|acknowledged|resolved)\"\x7d"⟩,
    ⟨"get_cost_summary", "Get the month-to-date cloud cost summary (total spend, forecasts, open alerts).", "\x7b\x7d"⟩,
    ⟨"search_logs", "Search log entries by keyword, level, and/or time range.",
      "\x7b\"q\": \"string (optional)\", \"level\": \"string (optional: debug|info|warn|error)\", " ++
      "\"from\": \"ISO timestamp (optional)\", \"to\": \"ISO timestamp (optional)\", " ++
      "\"limit\": \"number (optional, max 50)\"\x7d"⟩,
    ⟨"list_monitors", "List configured monitors (uptime, ping, SSL, synthetic, etc.).", "\x7b\x7d"⟩]

def buildToolsSystemPrompt : String :=
  let toolLines := "\n\n".intercalate (ASK_TOOLS.map fun t =>
    "  " ++ t.name ++ "(" ++ t.paramsSchema ++ ")\n    " ++ t.description)
  "You are a cloud operations assistant with access to the following tools:\n\n" ++
    toolLines ++
    "\n\n" ++
    "When you need to call a tool, respond with EXACTLY this format on its own line:\n" ++
    "TOOL_CALL: \x7b\"tool\": \"<tool_name>\", \"args\": \x7b<args as JSON>\x7d\x7d\n\n" ++
    "After receiving the tool result (prefixed with TOOL_RESULT:), continue reasoning. " ++
    "You may call multiple tools in sequence. " ++
    "When you have enough information to answer definitively, respond in plain text (no TOOL_CALL prefix). " ++
    "Be concise and actionable."

structure ToolCallRequest where
  tool : String
  args : Value

def trimText (text : String) : String := .ofList (trimmed text.toList)

def trimStart (text : String) : List Char := text.toList.dropWhile isStrWhiteSpace

section Parsing

-- JSON.parse, which throws on a text that is none
variable (parseJson : String → Except String Value)

-- parsed.args ?? {}
def argsOf (properties : List (String × Value)) : Value :=
  match property properties "args" with
  | none | some .null => .object []
  | some args => args

-- Reading a property of null throws, and that is caught as a text that does not parse is.
def parseToolCall (line : String) : Option ToolCallRequest :=
  let callPrefix := "TOOL_CALL:".toList
  if callPrefix.isPrefixOf (trimStart line) then
    match parseJson (.ofList (trimmed ((trimStart line).drop callPrefix.length))) with
    | .ok (.object properties) =>
        match property properties "tool" with
        | some (.string tool) => some ⟨tool, argsOf properties⟩
        | _ => none
    | _ => none
  else none

end Parsing

def isAllowedTool (name : String) : Bool := ASK_TOOLS.any fun t => t.name == name

-- A GET of the app's own API, with its query before it is encoded.
structure InternalRequest where
  url : String
  params : Option (List (String × String))
  xTenantId : String
  xInternalApiKey : String

structure InternalApi where
  internalApiBaseUrl : Option String
  internalApiKey : Option String

def truthy : Value → Bool
  | .null => false
  | .boolean value => value
  | .number value => !(value == 0) && !value.isNaN
  | .string text => text ≠ ""
  | .array _ | .object _ | .builtIn _ _ => true

-- args[key], none where it is undefined
def argument (args : Value) (key : String) : Option Value :=
  match args with
  | .object properties => property properties key
  | _ => none

-- if (args.key) params.set(key, String(args.key))
def textParam (args : Value) (key : String) : Except String (List (String × String)) :=
  match (argument args key).filter truthy with
  | none => .ok []
  | some value => do return [(key, ← value.toText)]

-- Math.min(Number(args.limit), most)
def limitParam (args : Value) (most : Float) : Except String (List (String × String)) :=
  match (argument args "limit").filter truthy with
  | none => .ok []
  | some value => do
      let limit ← value.toNumber
      return [("limit", numberToString (if most < limit then most else limit))]

-- The path of a tool and its query, none where the URL has none.
def urlFor (call : ToolCallRequest) : Except String (String × Option (List (String × String))) := do
  match call.tool with
  | "search_tickets" =>
      let q ← textParam call.args "q"
      let status ← textParam call.args "status"
      return ("/tickets", some (q ++ status ++ (← limitParam call.args 20)))
  | "list_alerts" => return ("/alerts", some (← textParam call.args "status"))
  | "get_cost_summary" => return ("/cost/dashboard/summary", none)
  | "search_logs" =>
      let q ← textParam call.args "q"
      let level ← textParam call.args "level"
      let fromTime ← textParam call.args "from"
      let toTime ← textParam call.args "to"
      return ("/logs/search", some (q ++ level ++ fromTime ++ toTime ++ (← limitParam call.args 50)))
  | "list_monitors" => return ("/monitors", none)
  | tool => .error s!"Unknown tool: {tool}"

-- The request that AskService.fetchInternal makes
def requestFor (api : InternalApi) (tenantId : String) (call : ToolCallRequest) : Except String InternalRequest :=
  (urlFor call).map fun (path, params) =>
    { url := api.internalApiBaseUrl.getD "http://localhost:3000/api/v1" ++ path
      params
      xTenantId := tenantId
      xInternalApiKey := api.internalApiKey.getD "dev-internal-api-key" }

def MAX_TOOL_ROUNDS : Nat := 6

inductive AskRole where
  | user
  | assistant
  deriving DecidableEq

-- A row of ask_messages.
structure AskMessage where
  tenantId : String
  sessionId : Uuid
  role : AskRole
  content : String
  toolCalls : Option (List ToolCallRequest)
  createdAt : Nat

-- What an answer to an ask does outside the database.
inductive AskEffect where
  | completed (tenantId system user : String)
  | fetched (request : InternalRequest)

inductive FetchOutcome where
  | failed (message : String)
  | response (ok : Bool) (status : Nat) (json : Except String Value)

-- The tenants' completion clients and the API, in a world of their own; and JSON.
structure AskBackend (World : Type) where
  enabled : String → World → Bool
  complete : (tenantId system user : String) → World → Except String String × World
  fetch : InternalRequest → World → FetchOutcome × World
  api : InternalApi
  parseJson : String → Except String Value
  stringify : Value → String

-- The database, with the time of the next transaction, and what has been done outside it.
structure AskState (World : Type) where
  sessions : Table Uuid String
  messages : List AskMessage
  clock : Nat
  world : World
  effects : List AskEffect

def AskState.empty {World : Type} (world : World) : AskState World where
  sessions := ∅
  messages := []
  clock := 0
  world
  effects := []

variable {World : Type} (backend : AskBackend World)

abbrev AskM (World : Type) := EffectM ServiceError (AskState World)

section Outside

-- client.complete
def complete (tenantId system user : String) : AskM World String := do
  let state ← get
  let (answer, world) := backend.complete tenantId system user state.world
  set { state with world, effects := state.effects ++ [AskEffect.completed tenantId system user] }
  match answer with
  | .ok text => return text
  | .error message => throw (.error message)

-- AskService.fetchInternal, behind the building of its request
def fetchInternal (tool : String) (request : InternalRequest) : AskM World (Except String Value) := do
  let state ← get
  let (outcome, world) := backend.fetch request state.world
  set { state with world, effects := state.effects ++ [AskEffect.fetched request] }
  match outcome with
  | .failed message => return .error message
  | .response ok status json => return if ok then json else .error s!"{tool} returned HTTP {status}"

-- AskService.callTool
def callTool (tenantId : String) (call : ToolCallRequest) : AskM World String := do
  match requestFor backend.api tenantId call with
  | .error message => return s!"Error: {message}"
  | .ok request =>
      match ← fetchInternal backend call.tool request with
      | .ok result => return .ofList (sliceUnits 4000 (backend.stringify result).toList)
      | .error message => return s!"Error: {message}"

end Outside

section Loop

def firstLine (text : String) : String :=
  (((text.toList.splitOn '\n').map String.ofList).find? fun line => trimText line ≠ "").getD ""

def callText (call : ToolCallRequest) : String :=
  "\n\nAssistant: TOOL_CALL: " ++ backend.stringify (.object [("tool", .string call.tool), ("args", call.args)])

def finalSystem : String :=
  buildToolsSystemPrompt ++
    "\n\nYou have reached the tool call limit. Summarize what you have learned so far and give your best answer."

-- AskService.runLoop, from a round on, of which so many are left
def runLoop (tenantId : String) : Nat → String → List ToolCallRequest → AskM World (String × List ToolCallRequest)
  | 0, conversationText, toolCallLog => do
      let final ← complete backend tenantId finalSystem conversationText
      return (trimText final, toolCallLog)
  | rounds + 1, conversationText, toolCallLog => do
      let raw ← complete backend tenantId buildToolsSystemPrompt conversationText
      let answer := trimText raw
      match parseToolCall backend.parseJson (firstLine answer) with
      | none => return (answer, toolCallLog)
      | some toolCall =>
          if isAllowedTool toolCall.tool then
            let result ← callTool backend tenantId toolCall
            runLoop tenantId rounds (conversationText ++ callText backend toolCall ++ "\n\nTOOL_RESULT: " ++ result)
              (toolCallLog ++ [toolCall])
          else
            let unknown := s!"\n\nTOOL_RESULT: Error: unknown tool \"{toolCall.tool}\""
            runLoop tenantId rounds (conversationText ++ callText backend toolCall ++ unknown) toolCallLog

end Loop

section Sessions

-- AskService.saveMessage. That the database fails is left out.
def saveMessage (tenantId : String) (sessionId : Uuid) (role : AskRole) (content : String)
    (toolCalls : Option (List ToolCallRequest)) : AskM World Unit :=
  modify fun state =>
    { state with
      messages := state.messages ++ [⟨tenantId, sessionId, role, content, toolCalls, state.clock⟩]
      clock := state.clock + 1 }

-- The newest 20 of the session's messages, and those by their time
def history (messages : List AskMessage) (tenantId : String) (sessionId : Uuid) : List AskMessage :=
  let latest := ((messages.filter fun message => message.tenantId = tenantId ∧ message.sessionId = sessionId).insertionSort
    fun first second => second.createdAt ≤ first.createdAt).take 20
  latest.insertionSort fun first second => first.createdAt ≤ second.createdAt

def AskMessage.line (message : AskMessage) : String :=
  (match message.role with | .user => "User" | .assistant => "Assistant") ++ ": " ++ message.content

def conversation (messages : List AskMessage) : String := "\n\n".intercalate (messages.map AskMessage.line)

-- message.length
def unitsOf (text : String) : Nat := (text.toList.map fun c => if 0xFFFF < c.toNat then 2 else 1).sum

-- AskService.ask
def ask (tenantId : String) (sessionId : Uuid) (userMessage : String) : AskM World String := do
  if trimText userMessage = "" then throw (.badRequest "message must not be empty")
  if 4000 < unitsOf userMessage then throw (.badRequest "message must be at most 4000 characters")
  let state ← get
  if state.sessions.lookup sessionId ≠ some tenantId then throw (.notFound s!"Ask session {sessionId} not found")
  if !backend.enabled tenantId state.world then throw (.badRequest "AI assist is not configured for this tenant")
  saveMessage tenantId sessionId .user userMessage none
  let saved ← get
  let (answer, toolCallLog) ← runLoop backend tenantId MAX_TOOL_ROUNDS
    (conversation (history saved.messages tenantId sessionId)) []
  saveMessage tenantId sessionId .assistant answer (if toolCallLog.length > 0 then some toolCallLog else none)
  return answer

-- AskService.createSession
def createSession (tenantId : String) (newId : Uuid) : AskM World Uuid := do
  let state ← get
  if newId ∈ state.sessions then throw (.error "duplicate key value violates unique constraint")
  set { state with sessions := state.sessions.insert newId tenantId }
  return newId

-- AskService.getMessages
def getMessages (tenantId : String) (sessionId : Uuid) : AskM World (List AskMessage) := do
  let state ← get
  if state.sessions.lookup sessionId ≠ some tenantId then throw (.notFound s!"Ask session {sessionId} not found")
  return (state.messages.filter fun message => message.tenantId = tenantId ∧ message.sessionId = sessionId).insertionSort
    fun first second => first.createdAt ≤ second.createdAt

inductive AskCall where
  | createSession (tenantId : String) (newId : Uuid)
  | ask (tenantId : String) (sessionId : Uuid) (userMessage : String)

def step (state : AskState World) : AskCall → AskState World
  | .createSession tenantId newId => (exec (createSession tenantId newId) state).2
  | .ask tenantId sessionId userMessage => (exec (ask backend tenantId sessionId userMessage) state).2

end Sessions

end CloudOps.Ai.Ask
