import CloudOps.Monitoring.IngestKeys
import CloudOps.Platform.SsoService
import CloudOps.SignedTokens
import CloudOps.Ticketing.PortalAuthService

namespace CloudOps.Platform.Access

open CloudOps.Monitoring.IngestKeys CloudOps.Platform.Tokens CloudOps.Redis CloudOps.SignedTokens
open CloudOps.ReadCommitted (ScanOrder Solo Table)
open CloudOps.Ticketing (Uuid)
open CloudOps.Ticketing.Portal (PortalRegisterDto PortalRow PortalRuntime)
open CloudOps.Ticketing.TicketIntake (IntakeKey)

variable {Cipher : Type}

-- What the calls here take from outside. A contact's password is hashed with a salt of
-- the call's; `contactIds` are the ids the database generates for new contacts.
structure Backend (Cipher : Type) extends SsoEnvironment Cipher where
  rbac : RbacConfig
  ingestLimits : Monitoring.IngestLimits
  toLowerCase : String → String
  uuidText : Uuid → String
  hash : String → (salt : String) → String
  contactIds : Solo IntakeKey PortalRow

structure AccessState (Cipher : Type) where
  redis : Store
  users : String → Users Cipher
  ssoConfigs : SsoConfigs Cipher
  contacts : Table IntakeKey PortalRow
  keys : Tables

inductive PortalCall where
  | register (tenantId : Uuid) (dto : PortalRegisterDto) (salt : String)
  | login (tenantId : Uuid) (email password : String)

inductive KeyCall where
  | createDevice (tenantId resourceId label newId : String)
  | createLogSource (tenantId name newId : String)
  | createApmIngest (tenantId service newId : String)
  | createRumApp (tenantId appName newId : String)
  | updateDevice (tenantId id : String) (dto : UpdateKeyDto)
  | updateLogSource (tenantId id : String) (dto : UpdateKeyDto)
  | remove (kind : KeyKind) (tenantId id : String)

-- The routes by the guards they stand behind.
inductive Route where
  | agent (requiredRoles : List String)
  | portal
  | device
  | logSource
  | apmIngest

inductive AccessCall where
  | login (tenantId email password : String) (totpCode : Option String)
  | logout (userId : String)
  | configureSso (tenantId : String) (dto : UpsertSsoConfigDto) (salt : Nat)
  | beginSso (tenantId nonce : String)
  | completeSso (code state : String) (newId : Nat)
  | portal (call : PortalCall)
  | keys (call : KeyCall)
  | request (route : Route) (request : Request)
  | collect (appKey : String)

variable (backend : Backend Cipher)

-- AuthService.login: the attempt is counted before the users are read, and the count
-- cleared once the login has come through.
def authLogin (users : String → Users Cipher) (tenantId email password : String) (totpCode : Option String) :
    Prog ServiceError LoginReply := do
  let throttleKey := tenantId ++ ":" ++ backend.toLowerCase email
  let throttle ← registerLoginAttempt throttleKey
  let now ← Prog.dateNow
  match login { backend.auth with tenantId := tenantId } (users tenantId) email password totpCode throttle now with
  | .error error => .throw (.service error)
  | .ok .mfaRequired => return .mfaRequired
  | .ok (.token claims name) => do
      clearLoginAttempts throttleKey
      return .token claims name

def loginClaims (claims : TokenClaims) : JwtPayload :=
  agentClaims (toString claims.sub) claims.tenantId claims.email claims.role

def portalRuntime (salt : String) (now : Nat) : PortalRuntime where
  hash password := backend.hash password salt
  signJwt sub tenantId email :=
    Tokens.signJwt backend.jwt backend.tokens (contactClaims (backend.uuidText sub) (backend.uuidText tenantId) email) now

-- A portal call in its transaction, and the claims of the token it hands back.
def PortalCall.run (contacts : Table IntakeKey PortalRow) (now : Nat) :
    PortalCall → Option ((JwtPayload × String) × Table IntakeKey PortalRow)
  | .register tenantId dto salt =>
      outcome tenantId (Ticketing.Portal.register (portalRuntime backend salt now) tenantId dto)
  | .login tenantId email password =>
      outcome tenantId (Ticketing.Portal.login (portalRuntime backend "" now) tenantId backend.auth.compare email password)
where
  outcome (tenantId : Uuid) (prog : ReadCommitted.Prog IntakeKey PortalRow ServiceError Ticketing.Portal.AuthResult) :
      Option ((JwtPayload × String) × Table IntakeKey PortalRow) :=
    match prog.alone (fun _ _ => false) backend.contactIds now ∅ contacts with
    | .returned result writes =>
        some ((contactClaims (backend.uuidText result.id) (backend.uuidText tenantId) result.email, result.token),
          writes ∪ contacts)
    | .threw _ | .failed => none

def KeyCall.run (tables : Tables) (now : Nat) : KeyCall → Except ServiceError (Option CreatedKey × Tables)
  | .createDevice tenantId resourceId label newId =>
      (AgentTokensService.create backend.jwt backend.tokens tables tenantId resourceId label newId now).map created
  | .createLogSource tenantId name newId =>
      (LogsService.createSource backend.jwt backend.tokens tables tenantId name newId now).map created
  | .createApmIngest tenantId service newId =>
      (ApmService.createIngestKey backend.jwt backend.tokens tables tenantId service newId now).map created
  | .createRumApp tenantId appName newId =>
      (RumService.createAppKey backend.jwt backend.tokens tables tenantId appName newId now).map created
  | .updateDevice tenantId id dto => (AgentTokensService.update tables tenantId id dto).map fun after => (none, after)
  | .updateLogSource tenantId id dto => (LogsService.updateSource tables tenantId id dto).map fun after => (none, after)
  | .remove .device tenantId id => (AgentTokensService.remove tables tenantId id).map fun after => (none, after)
  | .remove .logSource tenantId id => (LogsService.removeSource tables tenantId id).map fun after => (none, after)
  | .remove .apmIngest tenantId id => (ApmService.removeIngestKey tables tenantId id).map fun after => (none, after)
  | .remove .rumApp tenantId id => (RumService.removeAppKey tables tenantId id).map fun after => (none, after)
where
  created (result : CreatedKey × Tables) : Option CreatedKey × Tables := (some result.1, result.2)

variable (state : AccessState Cipher)

-- The claims a call signs and the token it hands out with them.
def handedOut (now : Nat) : AccessCall → Option (JwtPayload × String)
  | .login tenantId email password totpCode =>
      match ((authLogin backend state.users tenantId email password totpCode).alone now state.redis).1 with
      | .ok (.token claims _) =>
          some (loginClaims claims, Tokens.signJwt backend.jwt backend.tokens (loginClaims claims) now)
      | .ok .mfaRequired | .error _ => none
  | .beginSso tenantId nonce =>
      (beginLogin backend.toSsoEnvironment state.ssoConfigs tenantId nonce now).toOption.map fun (_, token) =>
        (ssoState tenantId nonce, token)
  | .completeSso code ssoToken newId =>
      (completeLogin backend.toSsoEnvironment state.ssoConfigs state.users code ssoToken newId now).toOption.map
        fun session => (session.claims, session.token)
  | .portal call => (call.run backend state.contacts now).map Prod.fst
  | .keys call => do
      let (created, _) ← (call.run backend state.keys now).toOption
      created.map fun key => (key.claims, key.token)
  | .logout _ | .configureSso .. | .request .. | .collect _ => none

-- What a call leaves behind; one that throws is rolled back.
def serve (now : Nat) : AccessCall → AccessState Cipher
  | .login tenantId email password totpCode =>
      { state with
        redis := ((authLogin backend state.users tenantId email password totpCode).alone now state.redis).2 }
  | .logout userId =>
      { state with redis := ((revokeUserSessions userId : Prog ServiceError Unit).alone now state.redis).2 }
  | .configureSso tenantId dto salt =>
      { state with
        ssoConfigs := (upsertConfig backend.toSsoEnvironment state.ssoConfigs tenantId dto salt).toOption.getD
          state.ssoConfigs }
  | .completeSso code ssoToken newId =>
      match completeLogin backend.toSsoEnvironment state.ssoConfigs state.users code ssoToken newId now with
      | .ok session => { state with users := Function.update state.users session.tenantId session.users }
      | .error _ => state
  | .portal call =>
      { state with contacts := ((call.run backend state.contacts now).map Prod.snd).getD state.contacts }
  | .keys call => { state with keys := ((call.run backend state.keys now).toOption.map Prod.snd).getD state.keys }
  | .collect appKey =>
      { state with
        redis := (collect backend.jwt backend.tokens state.keys backend.ingestLimits state.redis appKey now).2 }
  | .beginSso .. | .request .. => state

end CloudOps.Platform.Access

namespace CloudOps.Platform.Access

open CloudOps.Monitoring.IngestKeys CloudOps.Platform.Tokens CloudOps.Redis CloudOps.SignedTokens
open CloudOps.ReadCommitted (ScanOrder Solo Table)
open CloudOps.Ticketing (Contact Uuid)
open CloudOps.Ticketing.Portal (ContactAccount HasContact PortalRegisterDto PortalRow PortalRuntime)
open CloudOps.Ticketing.TicketIntake (IntakeKey)

variable {Cipher : Type}

section Credentials

variable (env : AuthEnvironment Cipher)

-- What a password login has checked of the user it is for.
structure PasswordLogin (users : Users Cipher) (email password : String) (totpCode : Option String) (now userId : Nat)
    (user : User Cipher) : Prop where
  row : users.lookup userId = some user
  email : user.email = email
  password : env.compare password user.passwordHash = true
  secondFactor : user.totpEnabled = true → ∃ code secret, totpCode = some code ∧
    decryptedSecret env user = .ok (some secret) ∧ verifyTotp env.hmac (some secret) code now = .ok true

theorem passwordLogin_of_token {users : Users Cipher} {email password : String} {totpCode : Option String}
    {throttle : ThrottleResult} {now : Nat} {claims : TokenClaims} {name : String}
    (h : login env users email password totpCode throttle now = .ok (.token claims name)) :
    ∃ userId user, PasswordLogin env users email password totpCode now userId user ∧
      claims = ⟨userId, env.tenantId, user.email, user.role, "agent"⟩ := by
  unfold login at h
  split at h
  · cases h
  · split at h
    · cases h
    · rename_i userId user hfind
      have hrow : users.lookup userId = some user := Table.mem_rows.mp (List.mem_of_find?_eq_some hfind)
      have hemail : user.email = email := by simpa using List.find?_some hfind
      cases hpassword : env.compare password user.passwordHash with
      | false => simp [hpassword, bind, Except.bind] at h
      | true =>
          simp only [hpassword, Bool.not_true, Bool.false_eq_true, if_false] at h
          cases henabled : user.totpEnabled with
          | false =>
              simp only [henabled, Bool.not_false, if_true] at h
              obtain ⟨rfl, -⟩ := LoginReply.token.inj (Except.ok.inj h)
              exact ⟨userId, user, ⟨hrow, hemail, hpassword, fun htrue => absurd htrue (by rw [henabled]; decide)⟩, rfl⟩
          | true =>
              simp only [henabled, Bool.not_true, Bool.false_eq_true, if_false] at h
              cases hcode : totpCode.filter fun code => code ≠ "" with
              | none =>
                  simp only [hcode] at h
                  cases h
              | some code =>
                  simp only [hcode] at h
                  obtain ⟨secret, hsecret, hverify, hreply⟩ := ok_of_codeChecked env h
                  obtain ⟨rfl, -⟩ := LoginReply.token.inj hreply
                  obtain ⟨hgiven, -⟩ := Option.filter_eq_some_iff.mp hcode
                  exact ⟨userId, user,
                    ⟨hrow, hemail, hpassword, fun _ => ⟨code, secret, hgiven, hsecret, hverify⟩⟩, rfl⟩

end Credentials

section Sso

variable (env : SsoEnvironment Cipher)

-- What an SSO login has gone through: the state names the tenant, its provider has given
-- the profile, and the user is the tenant's with the profile's email.
structure SsoLogin (configs : SsoConfigs Cipher) (code state : String) (now : Nat) (session : SsoSession Cipher) :
    Prop where
  tenant : tenantOfState env state now = .ok session.tenantId
  profile : ∃ config clientSecret profile, loadConfig env configs session.tenantId = .ok (some (config, clientSecret)) ∧
    config.isEnabled = true ∧ fetchProfile env config clientSecret code = .ok profile ∧
    session.user.email = profile.email
  row : session.users.lookup session.userId = some session.user
  claims : session.claims = agentClaims (toString session.userId) session.tenantId session.user.email session.user.role
  token : session.token = Tokens.signJwt env.jwt env.tokens session.claims now

variable {env}

theorem matchOrProvision_row {users after : Users Cipher} {profile : OidcUserInfo} {defaultRole : String}
    {newId userId : Nat} {user : User Cipher}
    (h : matchOrProvision users profile defaultRole newId = .ok (userId, user, after)) :
    user.email = profile.email ∧ after.lookup userId = some user := by
  unfold matchOrProvision at h
  split at h
  · rename_i id found hfind
    obtain ⟨rfl, rfl, rfl⟩ : id = userId ∧ found = user ∧ users = after := by simpa using h
    exact ⟨by simpa using List.find?_some hfind, Table.mem_rows.mp (List.mem_of_find?_eq_some hfind)⟩
  · split at h
    · cases h
    · obtain ⟨rfl, rfl, rfl⟩ : newId = userId ∧ _ = user ∧ _ = after := by simpa using h
      exact ⟨rfl, AList.lookup_insert _⟩

theorem ssoLogin_of_session {configs : SsoConfigs Cipher} {users : String → Users Cipher} {code state : String}
    {newId now : Nat} {session : SsoSession Cipher}
    (h : completeLogin env configs users code state newId now = .ok session) :
    SsoLogin env configs code state now session := by
  unfold completeLogin at h
  cases htenant : tenantOfState env state now with
  | error _ => simp [htenant, bind, Except.bind] at h
  | ok tenantId =>
      cases hconfig : loadConfig env configs tenantId with
      | error _ => simp [htenant, hconfig, bind, Except.bind] at h
      | ok loaded =>
          simp only [htenant, hconfig, bind, Except.bind] at h
          cases loaded with
          | none => cases h
          | some loaded =>
              obtain ⟨config, clientSecret⟩ := loaded
              dsimp only at h
              split at h
              · rename_i henabled
                cases hprofile : fetchProfile env config clientSecret code with
                | error _ => simp [hprofile] at h
                | ok profile =>
                    simp only [hprofile] at h
                    cases huser : matchOrProvision (users tenantId) profile config.defaultRole newId with
                    | error _ => simp [huser] at h
                    | ok provisioned =>
                        obtain ⟨userId, user, after⟩ := provisioned
                        obtain ⟨hemail, hrow⟩ := matchOrProvision_row huser
                        simp only [huser, pure, Except.pure] at h
                        obtain rfl := Except.ok.inj h
                        exact ⟨htenant, ⟨config, clientSecret, profile, hconfig, henabled, hprofile, hemail⟩, hrow,
                          rfl, rfl⟩
              · cases h

theorem beginLogin_ok {configs : SsoConfigs Cipher} {tenantId nonce token : String} {now : Nat} {redirect : SsoRedirect}
    (h : beginLogin env configs tenantId nonce now = .ok (redirect, token)) :
    token = signState env.jwt env.tokens (ssoState tenantId nonce) now := by
  unfold beginLogin at h
  cases hconfig : loadConfig env configs tenantId with
  | error _ => simp [hconfig, bind, Except.bind] at h
  | ok loaded =>
      simp only [hconfig, bind, Except.bind] at h
      cases loaded with
      | none => cases h
      | some loaded =>
          dsimp only at h
          split at h
          · exact (Prod.mk.inj (Except.ok.inj h)).2.symm
          · cases h

end Sso

section Keys

def keyClaims (kind : KeyKind) (id : String) (row : KeyRow) : JwtPayload :=
  match kind with
  | .device => { sub := some id, tenantId := some row.tenantId, resourceId := row.resourceId, kind := some "device" }
  | .logSource => logSourceClaims id row.tenantId
  | .apmIngest => apmIngestClaims id row.tenantId
  | .rumApp => rumAppClaims id row.tenantId

-- The call has made this key: there was none with its id, and now it is there and active.
structure CreatesKey (tables after : Tables) (kind : KeyKind) (id : String) (row : KeyRow) : Prop where
  fresh : id ∉ tables.keys kind
  stored : (after.keys kind).lookup id = some row
  active : row.isActive = true

variable {backend : Backend Cipher} {tables after : Tables} {now : Nat}

theorem createKey_ok {kind : KeyKind} {row : KeyRow} {claims : JwtPayload} {newId : String} {key : CreatedKey}
    (h : createKey backend.jwt backend.tokens tables kind row claims newId now = .ok (key, after)) :
    newId ∉ tables.keys kind ∧ key = ⟨newId, claims, signLongLived backend.jwt backend.tokens claims now⟩ ∧
      after = tables.withKeys kind ((tables.keys kind).insert newId row) := by
  unfold createKey insertKey at h
  by_cases hin : newId ∈ tables.keys kind
  · simp [hin, bind, Except.bind] at h
  · simp only [hin, if_false, bind, Except.bind, pure, Except.pure, Except.ok.injEq, Prod.mk.injEq] at h
    exact ⟨hin, h.1.symm, h.2.symm⟩

theorem createsKey_of_ok {kind : KeyKind} {row : KeyRow} {newId : String} {key : CreatedKey}
    (hactive : row.isActive = true)
    (h : createKey backend.jwt backend.tokens tables kind row (keyClaims kind newId row) newId now = .ok (key, after)) :
    CreatesKey tables after kind key.id row ∧ key.claims = keyClaims kind key.id row ∧
      key.token = signLongLived backend.jwt backend.tokens key.claims now := by
  obtain ⟨hfresh, rfl, rfl⟩ := createKey_ok h
  refine ⟨⟨hfresh, ?_, hactive⟩, rfl, rfl⟩
  rw [Tables.keys_withKeys, AList.lookup_insert]

theorem eq_ok_of_created {result : Except ServiceError (CreatedKey × Tables)} {key : CreatedKey}
    (h : result.map KeyCall.run.created = .ok (some key, after)) : result = .ok (key, after) := by
  cases result with
  | error _ => cases h
  | ok made =>
      obtain ⟨rfl, rfl⟩ : made.1 = key ∧ made.2 = after := by simpa [Except.map, KeyCall.run.created] using h
      rfl

theorem not_created {result : Except ServiceError Tables} {key : CreatedKey} :
    result.map (fun made => ((none : Option CreatedKey), made)) ≠ .ok (some key, after) := by
  cases result with
  | error _ => exact nofun
  | ok made => simp [Except.map]

theorem createsKey_of_run {call : KeyCall} {key : CreatedKey}
    (h : call.run backend tables now = .ok (some key, after)) :
    ∃ kind row, CreatesKey tables after kind key.id row ∧ key.claims = keyClaims kind key.id row ∧
      key.token = signLongLived backend.jwt backend.tokens key.claims now := by
  cases call with
  | createDevice tenantId resourceId label newId =>
      have hmade := eq_ok_of_created h
      unfold AgentTokensService.create at hmade
      split at hmade
      · exact ⟨.device, _, createsKey_of_ok rfl hmade⟩
      · cases hmade
  | createLogSource tenantId name newId => exact ⟨.logSource, _, createsKey_of_ok rfl (eq_ok_of_created h)⟩
  | createApmIngest tenantId service newId => exact ⟨.apmIngest, _, createsKey_of_ok rfl (eq_ok_of_created h)⟩
  | createRumApp tenantId appName newId => exact ⟨.rumApp, _, createsKey_of_ok rfl (eq_ok_of_created h)⟩
  | updateDevice tenantId id dto => exact absurd h not_created
  | updateLogSource tenantId id dto => exact absurd h not_created
  | remove kind tenantId id =>
      cases kind with
      | device | logSource | apmIngest | rumApp => exact absurd h not_created

end Keys

section Issues

variable (backend : Backend Cipher) (state : AccessState Cipher) (now : Nat)

-- What a call that hands out a token has checked or made first, and what the token says.
inductive Issues : AccessCall → JwtPayload → Prop where
  | login {tenantId email password : String} {totpCode : Option String} {userId : Nat} {user : User Cipher} :
      PasswordLogin { backend.auth with tenantId := tenantId } (state.users tenantId) email password totpCode now
        userId user →
      Issues (.login tenantId email password totpCode) (agentClaims (toString userId) tenantId user.email user.role)
  | beginSso {tenantId nonce : String} : Issues (.beginSso tenantId nonce) (ssoState tenantId nonce)
  | completeSso {code ssoToken : String} {newId : Nat} {session : SsoSession Cipher} :
      SsoLogin backend.toSsoEnvironment state.ssoConfigs code ssoToken now session →
      (serve backend state now (.completeSso code ssoToken newId)).users session.tenantId = session.users →
      Issues (.completeSso code ssoToken newId) session.claims
  | portalLogin {tenantId id : Uuid} {email password hash : String} {contact : Contact} {account : ContactAccount} :
      HasContact state.contacts tenantId id contact account → contact.email = email →
      account.passwordHash = some hash → backend.auth.compare password hash = true →
      Issues (.portal (.login tenantId email password))
        (contactClaims (backend.uuidText id) (backend.uuidText tenantId) contact.email)
  | portalRegister {tenantId id : Uuid} {dto : PortalRegisterDto} {salt : String} {contact : Contact}
      {account : ContactAccount} :
      HasContact (serve backend state now (.portal (.register tenantId dto salt))).contacts tenantId id contact account →
      contact.email = dto.email → account.passwordHash = some (backend.hash dto.password salt) →
      Issues (.portal (.register tenantId dto salt))
        (contactClaims (backend.uuidText id) (backend.uuidText tenantId) contact.email)
  | key {call : KeyCall} {kind : KeyKind} {id : String} {row : KeyRow} :
      CreatesKey state.keys (serve backend state now (.keys call)).keys kind id row →
      Issues (.keys call) (keyClaims kind id row)

-- The token is the library's for these claims, which have no time of issue of their own.
def IsSigned (claims : JwtPayload) (token : String) : Prop :=
  claims.iat = none ∧ ∃ expiresIn, token = backend.jwt.sign claims backend.tokens.secret expiresIn now

variable {backend state now} {claims : JwtPayload} {token : String}

theorem login_of_authLogin {users : String → Users Cipher} {tenantId email password name : String}
    {totpCode : Option String} {found : TokenClaims} {store : Store}
    (h : ((authLogin backend users tenantId email password totpCode).alone now store).1 = .ok (.token found name)) :
    ∃ throttle, login { backend.auth with tenantId := tenantId } (users tenantId) email password totpCode throttle now =
      .ok (.token found name) := by
  unfold authLogin at h
  dsimp only at h
  rw [Prog.alone_bind] at h
  split at h
  · rename_i throttle _
    refine ⟨throttle, ?_⟩
    rw [Prog.dateNow_bind] at h
    simp only [Prog.alone] at h
    split at h
    · cases h
    · cases h
    · rename_i reply displayed hlogin
      rw [Prog.alone_bind] at h
      split at h
      · obtain ⟨rfl, rfl⟩ := LoginReply.token.inj (Except.ok.inj h)
        exact hlogin
      · cases h
  · cases h

theorem issues_login {tenantId email password : String} {totpCode : Option String}
    (h : handedOut backend state now (.login tenantId email password totpCode) = some (claims, token)) :
    Issues backend state now (.login tenantId email password totpCode) claims ∧ IsSigned backend now claims token := by
  simp only [handedOut] at h
  split at h
  · rename_i found name hreply
    obtain ⟨rfl, rfl⟩ := Prod.mk.inj (Option.some.inj h)
    obtain ⟨throttle, hlogin⟩ := login_of_authLogin hreply
    obtain ⟨userId, user, hchecked, rfl⟩ := passwordLogin_of_token _ hlogin
    exact ⟨.login hchecked, rfl, _, rfl⟩
  · cases h
  · cases h

-- What a portal call hands back comes from its transaction.
theorem outcome_eq_some {tenantId : Uuid} {contacts after : Table IntakeKey PortalRow}
    {prog : ReadCommitted.Prog IntakeKey PortalRow ServiceError Ticketing.Portal.AuthResult}
    (h : PortalCall.run.outcome backend contacts now tenantId prog = some ((claims, token), after)) :
    ∃ result writes, prog.alone (fun _ _ => false) backend.contactIds now ∅ contacts = .returned result writes ∧
      claims = contactClaims (backend.uuidText result.id) (backend.uuidText tenantId) result.email ∧
      token = result.token ∧ after = writes ∪ contacts := by
  unfold PortalCall.run.outcome at h
  split at h
  · rename_i result writes hrun
    obtain ⟨⟨rfl, rfl⟩, rfl⟩ : (_ = claims ∧ _ = token) ∧ _ = after := by simpa using h
    exact ⟨result, writes, hrun, rfl, rfl, rfl⟩
  · cases h
  · cases h

theorem issues_portal {call : PortalCall} (h : handedOut backend state now (.portal call) = some (claims, token)) :
    Issues backend state now (.portal call) claims ∧ IsSigned backend now claims token := by
  simp only [handedOut] at h
  obtain ⟨⟨handed, after⟩, hrun, rfl⟩ := Option.map_eq_some_iff.mp h
  cases call with
  | login tenantId email password =>
      obtain ⟨result, writes, halone, rfl, rfl, rfl⟩ := outcome_eq_some hrun
      obtain ⟨id, contact, account, hash, rfl, hemail, hcontact, hhash, hcompare, -⟩ :=
        Ticketing.Portal.login_alone halone
      exact ⟨.portalLogin hcontact hemail hhash hcompare, rfl, _, rfl⟩
  | register tenantId dto salt =>
      obtain ⟨result, writes, halone, rfl, rfl, rfl⟩ := outcome_eq_some hrun
      obtain ⟨id, contact, account, rfl, hemail, hcontact, hhash⟩ := Ticketing.Portal.register_alone halone
      refine ⟨.portalRegister ?_ hemail hhash, rfl, _, rfl⟩
      simp only [serve, hrun, Option.map_some, Option.getD_some]
      exact hcontact

theorem issues_of_handedOut {call : AccessCall} (h : handedOut backend state now call = some (claims, token)) :
    Issues backend state now call claims ∧ IsSigned backend now claims token := by
  cases call with
  | login tenantId email password totpCode => exact issues_login h
  | portal call => exact issues_portal h
  | beginSso tenantId nonce =>
      simp only [handedOut] at h
      cases hbegun : beginLogin backend.toSsoEnvironment state.ssoConfigs tenantId nonce now with
      | error _ => simp [hbegun, Except.toOption] at h
      | ok begun =>
          obtain ⟨rfl, rfl⟩ : ssoState tenantId nonce = claims ∧ begun.2 = token := by
            simpa [hbegun, Except.toOption] using h
          exact ⟨.beginSso, rfl, _, beginLogin_ok hbegun⟩
  | completeSso code ssoToken newId =>
      simp only [handedOut] at h
      cases hsession : completeLogin backend.toSsoEnvironment state.ssoConfigs state.users code ssoToken newId now with
      | error _ => simp [hsession, Except.toOption] at h
      | ok session =>
          obtain ⟨rfl, rfl⟩ : session.claims = claims ∧ session.token = token := by
            simpa [hsession, Except.toOption] using h
          have hlogin := ssoLogin_of_session hsession
          refine ⟨.completeSso hlogin ?_, by rw [hlogin.claims]; rfl, _, hlogin.token⟩
          simp only [serve, hsession, Function.update_self]
  | keys call =>
      simp only [handedOut] at h
      cases hrun : call.run backend state.keys now with
      | error _ => simp [hrun, Except.toOption] at h
      | ok result =>
          obtain ⟨created, after⟩ := result
          obtain ⟨key, rfl, rfl, rfl⟩ : ∃ key, created = some key ∧ key.claims = claims ∧ key.token = token := by
            simpa [hrun, Except.toOption] using h
          obtain ⟨kind, row, hcreates, hclaims, htoken⟩ := createsKey_of_run hrun
          refine ⟨?_, by rw [hclaims]; cases kind <;> rfl, _, htoken⟩
          rw [hclaims]
          refine .key ?_
          simpa only [serve, hrun, Except.toOption, Option.map_some, Option.getD_some] using hcreates
  | logout _ | configureSso _ _ _ | request _ _ | collect _ => cases h

end Issues

end CloudOps.Platform.Access
