import CloudOps.Platform.Guards
import Mathlib.Logic.Function.Basic

namespace CloudOps.Platform.Tokens

open CloudOps.ReadCommitted (Table)

variable {Cipher : Type}

-- A row of tenant_sso_configs, under its tenant.
structure SsoConfig (Cipher : Type) where
  issuer : String
  clientId : String
  clientSecretEncrypted : Cipher
  authorizationEndpoint : String
  tokenEndpoint : String
  userinfoEndpoint : String
  defaultRole : String
  isEnabled : Bool

structure UpsertSsoConfigDto where
  issuer : String
  clientId : String
  clientSecret : Option String
  authorizationEndpoint : String
  tokenEndpoint : String
  userinfoEndpoint : String
  defaultRole : Option String
  isEnabled : Option Bool

structure OidcEndpoints where
  tokenEndpoint : String
  userinfoEndpoint : String
  clientId : String
  clientSecret : String
  deriving DecidableEq

structure OidcUserInfo where
  sub : String
  email : String
  name : Option String

-- The identity providers of the tenants, as the HTTP client reaches them: what an
-- exchange of a code and the reading of a profile come to.
structure OidcHttpClient where
  exchangeCode : OidcEndpoints → (code redirectUri : String) → Except String String
  fetchUserInfo : OidcEndpoints → (accessToken : String) → Except String OidcUserInfo

-- API_PUBLIC_URL besides what the tokens need.
structure SsoEnvironment (Cipher : Type) where
  jwt : TokenLibrary
  tokens : TokenEnvironment
  auth : AuthEnvironment Cipher
  oidc : OidcHttpClient
  apiPublicUrl : Option String

def SsoEnvironment.redirectUri (env : SsoEnvironment Cipher) : String :=
  env.apiPublicUrl.getD "http://localhost:3000/api/v1" ++ "/auth/sso/callback"

abbrev SsoConfigs (Cipher : Type) := Table String (SsoConfig Cipher)

variable (env : SsoEnvironment Cipher)

-- dto.clientSecret?.trim(), where it is not blank
def UpsertSsoConfigDto.secret (dto : UpsertSsoConfigDto) : Option String :=
  (dto.clientSecret.map fun text => String.ofList (trim text.toList)).filter fun text => text ≠ ""

def UpsertSsoConfigDto.config (dto : UpsertSsoConfigDto) (clientSecretEncrypted : Cipher) : SsoConfig Cipher where
  issuer := dto.issuer
  clientId := dto.clientId
  clientSecretEncrypted := clientSecretEncrypted
  authorizationEndpoint := dto.authorizationEndpoint
  tokenEndpoint := dto.tokenEndpoint
  userinfoEndpoint := dto.userinfoEndpoint
  defaultRole := dto.defaultRole.getD "agent"
  isEnabled := dto.isEnabled.getD true

-- SsoService.upsertConfig
def upsertConfig (configs : SsoConfigs Cipher) (tenantId : String) (dto : UpsertSsoConfigDto) (salt : Nat) :
    Except ServiceError (SsoConfigs Cipher) :=
  let encrypted := dto.secret.map fun secret => env.auth.pgpSymEncrypt secret env.auth.credentialsEncryptionKey salt
  match encrypted.or ((configs.lookup tenantId).map SsoConfig.clientSecretEncrypted) with
  | none => .error (.badRequest "A client secret is required to configure SSO")
  | some cipher => .ok (configs.insert tenantId (dto.config cipher))

-- loadConfig, with the secret decrypted
def loadConfig (configs : SsoConfigs Cipher) (tenantId : String) :
    Except ServiceError (Option (SsoConfig Cipher × String)) :=
  match configs.lookup tenantId with
  | none => .ok none
  | some config =>
      (env.auth.pgpSymDecrypt config.clientSecretEncrypted env.auth.credentialsEncryptionKey).map fun secret =>
        some (config, secret)

-- The authorization URL, with its query parameters before they are encoded.
structure SsoRedirect where
  endpoint : String
  params : List (String × String)

-- SsoService.beginLogin
def beginLogin (configs : SsoConfigs Cipher) (tenantId nonce : String) (now : Nat) :
    Except ServiceError (SsoRedirect × String) := do
  match ← loadConfig env configs tenantId with
  | none => .error (.notFound "SSO is not configured for this tenant")
  | some (config, _) =>
      if config.isEnabled then
        let state := signState env.jwt env.tokens (ssoState tenantId nonce) now
        return (⟨config.authorizationEndpoint,
          [("response_type", "code"), ("client_id", config.clientId), ("redirect_uri", env.redirectUri),
            ("scope", "openid email profile"), ("state", state)]⟩, state)
      else .error (.notFound "SSO is not configured for this tenant")

-- The tenant a state token stands for.
def tenantOfState (state : String) (now : Nat) : Except ServiceError String :=
  match (verifyJwt env.jwt env.tokens state now).bind fun decoded =>
      if decoded.purpose = some "sso" then decoded.tenantId.filter fun tenantId => tenantId ≠ "" else none with
  | none => .error (.unauthorized "Invalid or expired SSO state")
  | some tenantId => .ok tenantId

def SsoConfig.endpoints (config : SsoConfig Cipher) (clientSecret : String) : OidcEndpoints :=
  ⟨config.tokenEndpoint, config.userinfoEndpoint, config.clientId, clientSecret⟩

-- The two requests to the identity provider; an error there is not caught.
def fetchProfile (config : SsoConfig Cipher) (clientSecret code : String) : Except ServiceError OidcUserInfo := do
  let accessToken ← (env.oidc.exchangeCode (config.endpoints clientSecret) code env.redirectUri).mapError .error
  (env.oidc.fetchUserInfo (config.endpoints clientSecret) accessToken).mapError .error

-- The user of a profile, made where the tenant has none with its email.
def matchOrProvision (users : Users Cipher) (profile : OidcUserInfo) (defaultRole : String) (newId : Nat) :
    Except ServiceError (Nat × User Cipher × Users Cipher) :=
  match users.rows.find? fun row => row.2.email == profile.email with
  | some (id, user) => .ok (id, user, users)
  | none =>
      let created : User Cipher :=
        { email := profile.email
          passwordHash := ""
          name := profile.name.getD profile.email
          role := defaultRole
          totpSecretEncrypted := none
          totpEnabled := false }
      if newId ∈ users then .error (.error "duplicate key value violates unique constraint")
      else .ok (newId, created, users.insert newId created)

structure SsoSession (Cipher : Type) where
  tenantId : String
  userId : Nat
  user : User Cipher
  users : Users Cipher
  claims : JwtPayload
  token : String

-- SsoService.completeLogin
def completeLogin (configs : SsoConfigs Cipher) (users : String → Users Cipher) (code state : String) (newId now : Nat) :
    Except ServiceError (SsoSession Cipher) := do
  let tenantId ← tenantOfState env state now
  match ← loadConfig env configs tenantId with
  | none => .error (.badRequest "SSO is not configured for this tenant")
  | some (config, clientSecret) =>
      if config.isEnabled then
        let profile ← fetchProfile env config clientSecret code
        let (userId, user, after) ← matchOrProvision (users tenantId) profile config.defaultRole newId
        let claims := agentClaims (toString userId) tenantId user.email user.role
        return ⟨tenantId, userId, user, after, claims, signJwt env.jwt env.tokens claims now⟩
      else .error (.badRequest "SSO is not configured for this tenant")

end CloudOps.Platform.Tokens
