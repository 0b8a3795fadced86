import CloudOps.Platform.Guards
import CloudOps.Redis.Requests

namespace CloudOps.Monitoring

open CloudOps.Redis

structure HttpException where
  statusCode : Nat
  message : String
  retryAfterSeconds : Nat

-- INGEST_MAX_REQUESTS_PER_WINDOW and INGEST_RATE_WINDOW_SECONDS.
structure IngestLimits where
  maxPerWindow : Nat
  windowSeconds : Nat

-- The seconds to wait: the key's time to live, and the window where there is none or
-- the server does not answer.
def retryAfter (redisKey : String) (window : Nat) : Prog HttpException Nat :=
  Prog.tryCatch (do
    let t ← Prog.ttl redisKey
    return if 0 < t then t.toNat else window) fun _ => return window

def enforceIngestRate (limits : IngestLimits) (key : String) : Prog HttpException Unit := do
  let redisKey := "ingest:rate:" ++ key
  -- none: fail open
  match ← Prog.tryCatch (some <$> Prog.countInWindow redisKey limits.windowSeconds)
      fun _ => return none with
  | none => return ()
  | some count =>
      if limits.maxPerWindow < count then
        let ttl ← retryAfter redisKey limits.windowSeconds
        .throw (.service ⟨429, "Ingestion rate limit exceeded", ttl⟩)

end CloudOps.Monitoring

namespace CloudOps.Monitoring.IngestKeys

open CloudOps.Platform.Tokens CloudOps.ReadCommitted CloudOps.Redis

inductive KeyKind where
  | device
  | logSource
  | apmIngest
  | rumApp
  deriving DecidableEq

-- The kind of its tokens.
def KeyKind.name : KeyKind → String
  | device => "device"
  | logSource => "log_source"
  | apmIngest => "apm_ingest"
  | rumApp => "rum_app"

-- A row of agent_tokens, log_sources, apm_ingest_keys or rum_app_keys. Its name is the
-- label, the name, the service or the app's name; only agent_tokens have a resource, and
-- call the flag is_enabled.
structure KeyRow where
  tenantId : String
  name : String
  resourceId : Option String
  isActive : Bool
  deriving DecidableEq

abbrev KeyTable := Table String KeyRow

-- SELECT .. WHERE id = $1, in a tenant's transaction
def keyOf (keys : KeyTable) (tenantId id : String) : Option KeyRow :=
  (keys.lookup id).filter fun row => row.tenantId == tenantId

-- INSERT .. RETURNING *
def insertKey (keys : KeyTable) (id : String) (row : KeyRow) : Except ServiceError KeyTable :=
  if id ∈ keys then .error (.error "duplicate key value violates unique constraint") else .ok (keys.insert id row)

structure UpdateKeyDto where
  name : Option String
  isActive : Option Bool

def updateKey (label : String) (keys : KeyTable) (tenantId id : String) (dto : UpdateKeyDto) :
    Except ServiceError KeyTable :=
  match keyOf keys tenantId id with
  | none => .error (.notFound s!"{label} {id} not found")
  | some row =>
      .ok (keys.insert id { row with name := dto.name.getD row.name, isActive := dto.isActive.getD row.isActive })

def removeKey (label : String) (keys : KeyTable) (tenantId id : String) : Except ServiceError KeyTable :=
  match keyOf keys tenantId id with
  | none => .error (.notFound s!"{label} {id} not found")
  | some _ => .ok (keys.erase id)

-- `resources` has the resources' tenants.
structure Tables where
  resources : Table String String
  agentTokens : KeyTable
  logSources : KeyTable
  apmIngestKeys : KeyTable
  rumAppKeys : KeyTable

def Tables.keys (tables : Tables) : KeyKind → KeyTable
  | .device => tables.agentTokens
  | .logSource => tables.logSources
  | .apmIngest => tables.apmIngestKeys
  | .rumApp => tables.rumAppKeys

def Tables.withKeys (tables : Tables) (kind : KeyKind) (keys : KeyTable) : Tables :=
  match kind with
  | .device => { tables with agentTokens := keys }
  | .logSource => { tables with logSources := keys }
  | .apmIngest => { tables with apmIngestKeys := keys }
  | .rumApp => { tables with rumAppKeys := keys }

@[simp] theorem Tables.keys_withKeys (tables : Tables) (kind : KeyKind) (keys : KeyTable) :
    (tables.withKeys kind keys).keys kind = keys := by
  cases kind <;> rfl

theorem Tables.keys_withKeys_of_ne (tables : Tables) {kind other : KeyKind} (h : other ≠ kind) (keys : KeyTable) :
    (tables.withKeys kind keys).keys other = tables.keys other := by
  cases kind <;> cases other <;> first | exact absurd rfl h | rfl

section Services

variable (jwt : TokenLibrary) (env : TokenEnvironment) (tables : Tables) (tenantId : String)

-- What a creation hands back: the token, this once.
structure CreatedKey where
  id : String
  claims : JwtPayload
  token : String

def createKey (kind : KeyKind) (row : KeyRow) (claims : JwtPayload) (newId : String) (now : Nat) :
    Except ServiceError (CreatedKey × Tables) := do
  let keys ← insertKey (tables.keys kind) newId row
  return (⟨newId, claims, signLongLived jwt env claims now⟩, tables.withKeys kind keys)

def AgentTokensService.create (resourceId label newId : String) (now : Nat) :
    Except ServiceError (CreatedKey × Tables) :=
  if tables.resources.lookup resourceId = some tenantId then
    createKey jwt env tables .device ⟨tenantId, label, some resourceId, true⟩
      (deviceClaims newId tenantId resourceId) newId now
  else .error (.notFound s!"Resource {resourceId} not found")

def LogsService.createSource (name newId : String) (now : Nat) : Except ServiceError (CreatedKey × Tables) :=
  createKey jwt env tables .logSource ⟨tenantId, name, none, true⟩ (logSourceClaims newId tenantId) newId now

def ApmService.createIngestKey (service newId : String) (now : Nat) : Except ServiceError (CreatedKey × Tables) :=
  createKey jwt env tables .apmIngest ⟨tenantId, service, none, true⟩ (apmIngestClaims newId tenantId) newId now

def RumService.createAppKey (appName newId : String) (now : Nat) : Except ServiceError (CreatedKey × Tables) :=
  createKey jwt env tables .rumApp ⟨tenantId, appName, none, true⟩ (rumAppClaims newId tenantId) newId now

def AgentTokensService.update (id : String) (dto : UpdateKeyDto) : Except ServiceError Tables :=
  tables.withKeys .device <$> updateKey "Agent token" tables.agentTokens tenantId id dto

def LogsService.updateSource (id : String) (dto : UpdateKeyDto) : Except ServiceError Tables :=
  tables.withKeys .logSource <$> updateKey "Log source" tables.logSources tenantId id dto

def AgentTokensService.remove (id : String) : Except ServiceError Tables :=
  tables.withKeys .device <$> removeKey "Agent token" tables.agentTokens tenantId id

def LogsService.removeSource (id : String) : Except ServiceError Tables :=
  tables.withKeys .logSource <$> removeKey "Log source" tables.logSources tenantId id

def ApmService.removeIngestKey (id : String) : Except ServiceError Tables :=
  tables.withKeys .apmIngest <$> removeKey "APM ingest key" tables.apmIngestKeys tenantId id

def RumService.removeAppKey (id : String) : Except ServiceError Tables :=
  tables.withKeys .rumApp <$> removeKey "RUM app key" tables.rumAppKeys tenantId id

end Services

section Ingestion

variable (jwt : TokenLibrary) (env : TokenEnvironment) (tables : Tables)

-- What a token of one kind stands for: its key, where the key's row is there for the
-- token's tenant and as the guard asks. A token of these kinds always has a subject and a tenant.
structure LiveKey where
  claims : JwtPayload
  tenantId : String
  id : String
  row : KeyRow

def liveKey (keys : KeyTable) (isLive : JwtPayload → KeyRow → Bool) (claims : JwtPayload) : Option LiveKey :=
  match claims.tenantId, claims.sub with
  | some tenantId, some id =>
      ((keyOf keys tenantId id).filter (isLive claims)).map fun row => ⟨claims, tenantId, id, row⟩
  | _, _ => none

-- The guards of the ingestion endpoints: what they say where there is no token, where it
-- does not verify, and where its key is not live.
def ingestGuard (verify : String → Nat → Option JwtPayload) (keys : KeyTable) (isLive : JwtPayload → KeyRow → Bool)
    (required invalid revoked : String) (request : Request) (now : Nat) : Except ServiceError LiveKey :=
  match request.bearer with
  | none => .error (.unauthorized required)
  | some token =>
      match verify token now with
      | none => .error (.unauthorized invalid)
      | some claims =>
          match liveKey keys isLive claims with
          | none => .error (.unauthorized revoked)
          | some key => .ok key

-- AgentTokenGuard.canActivate
def agentTokenGuard : Request → Nat → Except ServiceError LiveKey :=
  ingestGuard (verifyDeviceJwt jwt env) tables.agentTokens
    (fun claims row => row.isActive && row.resourceId == claims.resourceId)
    "Authorization: Bearer <device token> is required" "Invalid or expired device token"
    "Device token has been revoked or no longer exists"

-- LogSourceTokenGuard.canActivate
def logSourceTokenGuard : Request → Nat → Except ServiceError LiveKey :=
  ingestGuard (verifyLogSourceJwt jwt env) tables.logSources (fun _ row => row.isActive)
    "Authorization: Bearer <log source token> is required" "Invalid or expired log source token"
    "Log source token has been revoked or no longer exists"

-- ApmIngestTokenGuard.canActivate
def apmIngestTokenGuard : Request → Nat → Except ServiceError LiveKey :=
  ingestGuard (verifyApmIngestJwt jwt env) tables.apmIngestKeys (fun _ row => row.isActive)
    "Authorization: Bearer <APM ingest key> is required" "Invalid or expired APM ingest key"
    "APM ingest key has been revoked or no longer exists"

-- RumService.collect up to its INSERTs: the app's key comes in the body, and its rate is
-- counted before its row is read.
def collect (limits : IngestLimits) (store : Store) (appKey : String) (now : Nat) :
    Except ServiceError LiveKey × Store :=
  match verifyRumAppJwt jwt env appKey now with
  | none => (.error (.unauthorized "Invalid or expired RUM app key"), store)
  | some claims =>
      let sub := claims.sub.getD "undefined"
      let counted := (enforceIngestRate limits ("rum:" ++ sub)).alone now store
      match counted.1 with
      | .error (.service exception) => (.error (.tooManyRequests exception.message), counted.2)
      | .error (.redis message) => (.error (.error message), counted.2)
      | .ok () =>
          match liveKey tables.rumAppKeys (fun _ row => row.isActive) claims with
          | none => (.error (.unauthorized "RUM app key has been revoked or no longer exists"), counted.2)
          | some key => (.ok key, counted.2)

end Ingestion

end CloudOps.Monitoring.IngestKeys
