import CloudOps.Platform.SessionRevocation

namespace CloudOps.Platform.Tokens

-- The fields that any of the signing functions puts into a token, each absent where it is
-- left out. What reads a token takes its fields from the same object, whatever was signed.
structure JwtPayload where
  sub : Option String := none
  tenantId : Option String := none
  email : Option String := none
  role : Option String := none
  kind : Option String := none
  resourceId : Option String := none
  purpose : Option String := none
  nonce : Option String := none
  iat : Option Nat := none
  deriving DecidableEq

-- The library: a payload, a secret and an expiry at a time give a token; a token that
-- does not verify gives nothing.
structure TokenLibrary where
  sign : JwtPayload → (secret expiresIn : String) → Nat → String
  verify : String → (secret : String) → Nat → Option JwtPayload

-- What a token that is signed at this time carries.
def JwtPayload.issued (payload : JwtPayload) (time : Nat) : JwtPayload := { payload with iat := some (time / 1000) }

-- A token that verifies carries what was signed, with the second it was signed in.
def TokenLibrary.Stamps (jwt : TokenLibrary) : Prop :=
  ∀ payload secret expiresIn issued now found, payload.iat = none →
    jwt.verify (jwt.sign payload secret expiresIn issued) secret now = some found →
    found = payload.issued issued

-- Besides JWT_SECRET and JWT_EXPIRES_IN, DEVICE_JWT_EXPIRES_IN.
structure TokenEnvironment extends JwtEnvironment where
  deviceJwtExpiresIn : Option String

section Payloads

variable (sub tenantId : String)

-- AuthService.login and SsoService.completeLogin
def agentClaims (email role : String) : JwtPayload :=
  { sub := some sub, tenantId := some tenantId, email := some email, role := some role, kind := some "agent" }

-- PortalAuthService, toAuthResult
def contactClaims (email : String) : JwtPayload :=
  { sub := some sub, tenantId := some tenantId, email := some email, kind := some "contact" }

-- AgentTokensService.create
def deviceClaims (resourceId : String) : JwtPayload :=
  { sub := some sub, tenantId := some tenantId, resourceId := some resourceId, kind := some "device" }

-- LogsService.createSource
def logSourceClaims : JwtPayload :=
  { sub := some sub, tenantId := some tenantId, kind := some "log_source" }

-- ApmService.createIngestKey
def apmIngestClaims : JwtPayload :=
  { sub := some sub, tenantId := some tenantId, kind := some "apm_ingest" }

-- RumService.createAppKey
def rumAppClaims : JwtPayload :=
  { sub := some sub, tenantId := some tenantId, kind := some "rum_app" }

-- SsoService.beginLogin
def ssoState (nonce : String) : JwtPayload :=
  { tenantId := some tenantId, purpose := some "sso", nonce := some nonce }

end Payloads

variable (jwt : TokenLibrary) (env : TokenEnvironment)

def signJwt (claims : JwtPayload) (now : Nat) : String :=
  jwt.sign claims env.secret (env.jwtExpiresIn.getD "12h") now

def verifyJwt (token : String) (now : Nat) : Option JwtPayload := jwt.verify token env.secret now

-- signDeviceJwt, signLogSourceJwt, signApmIngestJwt and signRumAppJwt
def signLongLived (claims : JwtPayload) (now : Nat) : String :=
  jwt.sign claims env.secret (env.deviceJwtExpiresIn.getD "3650d") now

def signState (claims : JwtPayload) (now : Nat) : String := jwt.sign claims env.secret "10m" now

def verifyKind (kind token : String) (now : Nat) : Option JwtPayload :=
  (verifyJwt jwt env token now).filter fun claims => claims.kind == some kind

def verifyDeviceJwt : String → Nat → Option JwtPayload := verifyKind jwt env "device"
def verifyLogSourceJwt : String → Nat → Option JwtPayload := verifyKind jwt env "log_source"
def verifyApmIngestJwt : String → Nat → Option JwtPayload := verifyKind jwt env "apm_ingest"
def verifyRumAppJwt : String → Nat → Option JwtPayload := verifyKind jwt env "rum_app"

variable {jwt env}

theorem verifyKind_eq_some {kind token : String} {now : Nat} {claims : JwtPayload} :
    verifyKind jwt env kind token now = some claims ↔
      verifyJwt jwt env token now = some claims ∧ claims.kind = some kind := by
  rw [verifyKind, Option.filter_eq_some_iff, beq_iff_eq]

end CloudOps.Platform.Tokens

namespace CloudOps.Platform.Tokens

open CloudOps.Redis (Store)

-- The headers the guards read.
structure Request where
  authorization : Option String := none
  xTenantId : Option String := none
  xInternalApiKey : Option String := none

-- header('authorization')?.startsWith('Bearer ') and what comes after it
def Request.bearer (request : Request) : Option String :=
  match request.authorization with
  | none => none
  | some header =>
      if header.toList.take 7 = "Bearer ".toList then some (String.ofList (header.toList.drop 7)) else none

-- /^[0-9a-f]{8}-[0-9a-f]{4}-[0-9a-f]{4}-[0-9a-f]{4}-[0-9a-f]{12}$/i
def isUuid (text : String) : Bool :=
  let isHex (c : Char) : Bool := c.isDigit || "abcdefABCDEF".toList.contains c
  let chars := text.toList
  chars.length == 36 && chars.zipIdx.all fun (c, index) =>
    if [8, 13, 18, 23].contains index then c == '-' else isHex c

structure TenantScopedRequest where
  tenantId : Option String
  userId : Option String
  userRole : Option String
  deriving DecidableEq

structure ContactScopedRequest where
  tenantId : Option String
  contactId : Option String
  deriving DecidableEq

variable (jwt : TokenLibrary) (env : TokenEnvironment)

-- isSessionRevoked(claims.sub, claims.iat)
def sessionRevoked (store : Store) (claims : JwtPayload) (now : Nat) : Except ServiceError Bool :=
  match ((isSessionRevoked (claims.sub.getD "undefined") claims.iat : Redis.Prog ServiceError Bool).alone now store).1 with
  | .ok revoked => .ok revoked
  | .error (.redis message) => .error (.error message)
  | .error (.service error) => .error error

def tenantHeader (request : Request) : Except ServiceError TenantScopedRequest :=
  match request.xTenantId.filter isUuid with
  | some tenantId => .ok ⟨some tenantId, none, none⟩
  | none =>
      .error (.unauthorized
        (if request.bearer.isSome then "Invalid or expired token, and no valid X-Tenant-Id fallback was provided"
        else "X-Tenant-Id header is required and must be a UUID"))

-- TenantHeaderGuard.canActivate, with what it puts on the request.
def tenantHeaderGuard (store : Store) (request : Request) (now : Nat) : Except ServiceError TenantScopedRequest :=
  match request.bearer.bind fun token => (verifyJwt jwt env token now).filter fun claims => claims.kind == some "agent" with
  | none => tenantHeader request
  | some claims => do
      if ← sessionRevoked store claims now then tenantHeader request
      else return ⟨claims.tenantId, claims.sub, claims.role⟩

-- RBAC_REQUIRE_AUTH
structure RbacConfig where
  requireAuth : Option String

-- What a role-gated route answers with: a ForbiddenException besides what is thrown elsewhere.
inductive GuardError where
  | thrown (error : ServiceError)
  | forbidden (message : String)

-- RolesGuard.canActivate
def rolesGuard (rbac : RbacConfig) (requiredRoles : List String) (request : TenantScopedRequest) :
    Except GuardError Unit :=
  if requiredRoles = [] then .ok ()
  else match request.userRole.filter fun role => role ≠ "" with
    | none =>
        if rbac.requireAuth.getD "false" = "true" then
          .error (.thrown (.unauthorized "This action requires a signed-in agent (RBAC_REQUIRE_AUTH is enabled)"))
        else .ok ()
    | some role =>
        if requiredRoles.contains role then .ok ()
        else
          let allowed := ", ".intercalate requiredRoles
          .error (.forbidden s!"This action requires one of: {allowed} (your role: {role})")

-- @UseGuards(TenantHeaderGuard, RolesGuard)
def agentRoute (rbac : RbacConfig) (requiredRoles : List String) (store : Store) (request : Request) (now : Nat) :
    Except GuardError TenantScopedRequest := do
  let resolved ← (tenantHeaderGuard jwt env store request now).mapError .thrown
  rolesGuard rbac requiredRoles resolved
  return resolved

-- PortalAuthGuard.canActivate
def portalAuthGuard (request : Request) (now : Nat) : Except ServiceError ContactScopedRequest :=
  match request.bearer with
  | none => .error (.unauthorized "A Bearer token is required")
  | some token =>
      match verifyKind jwt env "contact" token now with
      | none => .error (.unauthorized "Invalid or expired token")
      | some claims => .ok ⟨claims.tenantId, claims.sub⟩

-- InternalApiKeyGuard.canActivate; the argument is INTERNAL_API_KEY.
def internalApiKeyGuard (internalApiKey : Option String) (request : Request) : Except ServiceError Unit :=
  let expected := internalApiKey.getD "dev-internal-api-key"
  match request.xInternalApiKey.filter fun provided => provided ≠ "" && provided == expected with
  | some _ => .ok ()
  | none => .error (.unauthorized "X-Internal-Api-Key header is required and must match")

end CloudOps.Platform.Tokens
