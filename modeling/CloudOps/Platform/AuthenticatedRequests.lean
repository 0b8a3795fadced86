import CloudOps.Platform.Access
import Mathlib.Algebra.Order.BigOperators.Group.List

namespace CloudOps.Platform.Access

open CloudOps.Monitoring.IngestKeys CloudOps.Platform.Tokens CloudOps.Redis CloudOps.SignedTokens
open CloudOps.ReadCommitted (Table)
open CloudOps.Ticketing (Contact Uuid)
open CloudOps.Ticketing.Portal (ContactAccount HasContact PortalRegisterDto PortalRow)
open CloudOps.Ticketing.TicketIntake (IntakeKey)

variable {Cipher : Type}

-- The tokens a call brings with it.
def AccessCall.tokens : AccessCall → List String
  | .completeSso _ ssoToken _ => [ssoToken]
  | .request _ headers => headers.bearer.toList
  | .collect appKey => [appKey]
  | .login .. | .logout _ | .configureSso .. | .beginSso .. | .portal _ | .keys _ => []

variable (backend : Backend Cipher)

-- The calls of the platform, each at its time, as a system that signs tokens and is
-- presented with them.
def system : Signing (AccessState Cipher) (Nat × AccessCall) String JwtPayload where
  step state event := serve backend state event.1 event.2
  signs state event :=
    ((handedOut backend state event.1 event.2).map fun handed => (handed.2, handed.1.issued event.1)).toList
  presents event := event.2.tokens
  opens event token := Tokens.verifyJwt backend.jwt backend.tokens token event.1

-- The platform after these calls.
def after (start : AccessState Cipher) (calls : List (Nat × AccessCall)) : AccessState Cipher :=
  Runs.run (system backend).step start calls

-- Among these calls there is one that has handed out a token with these claims, at this time.
def IssuedAmong (start : AccessState Cipher) (calls : List (Nat × AccessCall)) (time : Nat) (call : AccessCall)
    (claims : JwtPayload) : Prop :=
  ∃ before rest, calls = before ++ (time, call) :: rest ∧ Issues backend (after backend start before) time call claims

variable {backend}

theorem opensToSigned (hstamps : backend.jwt.Stamps) : OpensToSigned (system backend) := by
  intro state event token payload hsigned later found hfound
  obtain ⟨⟨claims, signed⟩, hhanded, hpair⟩ := Option.map_eq_some_iff.mp (Option.mem_toList.mp hsigned)
  obtain ⟨rfl, rfl⟩ := Prod.mk.inj hpair
  obtain ⟨hiat, expiresIn, rfl⟩ := (issues_of_handedOut hhanded).2
  exact hstamps _ _ _ _ _ _ hiat hfound

-- What a presented token says, an earlier call has checked.
theorem issuedAmong_of_presented (hstamps : backend.jwt.Stamps) {start : AccessState Cipher}
    {first rest : List (Nat × AccessCall)} {now : Nat} {call : AccessCall}
    (h : Unforged (system backend) [] start (first ++ (now, call) :: rest)) {token : String}
    (htoken : token ∈ call.tokens) {payload : JwtPayload}
    (hopens : Tokens.verifyJwt backend.jwt backend.tokens token now = some payload) :
    ∃ time issuing claims, IssuedAmong backend start first time issuing claims ∧ payload = claims.issued time := by
  obtain ⟨before, ⟨time, issuing⟩, later, hfirst, hsigned⟩ := h.signedIn (opensToSigned hstamps) htoken hopens
  obtain ⟨⟨claims, signed⟩, hhanded, hpair⟩ := Option.map_eq_some_iff.mp (Option.mem_toList.mp hsigned)
  obtain ⟨rfl, rfl⟩ := Prod.mk.inj hpair
  exact ⟨time, issuing, claims, ⟨before, later, hfirst, (issues_of_handedOut hhanded).1⟩, rfl⟩

section Kinds

variable {state : AccessState Cipher} {now : Nat} {call : AccessCall} {claims : JwtPayload}

-- A call that signs a user in: with the password, and a code where the second factor is
-- on, or through the tenant's identity provider.
inductive SignsIn (backend : Backend Cipher) (state : AccessState Cipher) (now : Nat) :
    AccessCall → (tenantId userId role : String) → Prop where
  | password {tenantId email password : String} {totpCode : Option String} {userId : Nat} {user : User Cipher} :
      PasswordLogin { backend.auth with tenantId := tenantId } (state.users tenantId) email password totpCode now
        userId user →
      SignsIn backend state now (.login tenantId email password totpCode) tenantId (toString userId) user.role
  | provider {code ssoToken : String} {newId : Nat} {session : SsoSession Cipher} :
      SsoLogin backend.toSsoEnvironment state.ssoConfigs code ssoToken now session →
      (serve backend state now (.completeSso code ssoToken newId)).users session.tenantId = session.users →
      SignsIn backend state now (.completeSso code ssoToken newId) session.tenantId (toString session.userId)
        session.user.role

theorem signsIn_of_issues (h : Issues backend state now call claims) (hkind : claims.kind = some "agent") :
    ∃ tenantId userId email role, claims = agentClaims userId tenantId email role ∧
      SignsIn backend state now call tenantId userId role := by
  cases h with
  | login hchecked => exact ⟨_, _, _, _, rfl, .password hchecked⟩
  | completeSso hlogin husers => exact ⟨_, _, _, _, hlogin.claims, .provider hlogin husers⟩
  | beginSso | portalLogin | portalRegister => simp [ssoState, contactClaims] at hkind
  | @key call kind id row _ => cases kind <;> simp [keyClaims, logSourceClaims, apmIngestClaims, rumAppClaims] at hkind

-- A call that signs a contact in: with the password there is, or with the one it sets.
inductive ContactSignsIn (backend : Backend Cipher) (state : AccessState Cipher) (now : Nat) :
    AccessCall → (tenantId id : Uuid) → Prop where
  | login {tenantId id : Uuid} {email password hash : String} {contact : Contact} {account : ContactAccount} :
      HasContact state.contacts tenantId id contact account → contact.email = email →
      account.passwordHash = some hash → backend.auth.compare password hash = true →
      ContactSignsIn backend state now (.portal (.login tenantId email password)) tenantId id
  | register {tenantId id : Uuid} {dto : PortalRegisterDto} {salt : String} {contact : Contact}
      {account : ContactAccount} :
      HasContact (serve backend state now (.portal (.register tenantId dto salt))).contacts tenantId id contact account →
      contact.email = dto.email → account.passwordHash = some (backend.hash dto.password salt) →
      ContactSignsIn backend state now (.portal (.register tenantId dto salt)) tenantId id

theorem contactSignsIn_of_issues (h : Issues backend state now call claims) (hkind : claims.kind = some "contact") :
    ∃ tenantId id email, claims = contactClaims (backend.uuidText id) (backend.uuidText tenantId) email ∧
      ContactSignsIn backend state now call tenantId id := by
  cases h with
  | portalLogin hcontact hemail hhash hcompare => exact ⟨_, _, _, rfl, .login hcontact hemail hhash hcompare⟩
  | portalRegister hcontact hemail hhash => exact ⟨_, _, _, rfl, .register hcontact hemail hhash⟩
  | login _ | beginSso => simp [ssoState, agentClaims] at hkind
  | completeSso hlogin _ => simp [hlogin.claims, agentClaims] at hkind
  | @key call kind id row _ => cases kind <;> simp [keyClaims, logSourceClaims, apmIngestClaims, rumAppClaims] at hkind

-- Only the beginning of an SSO login signs a state.
theorem beginSso_of_issues (h : Issues backend state now call claims) (hpurpose : claims.purpose = some "sso") :
    ∃ tenantId nonce, call = .beginSso tenantId nonce ∧ claims = ssoState tenantId nonce := by
  cases h with
  | beginSso => exact ⟨_, _, rfl, rfl⟩
  | login _ | portalLogin | portalRegister => simp [agentClaims, contactClaims] at hpurpose
  | completeSso hlogin _ => simp [hlogin.claims, agentClaims] at hpurpose
  | @key call kind id row _ =>
      cases kind <;> simp [keyClaims, logSourceClaims, apmIngestClaims, rumAppClaims] at hpurpose

theorem keyCreated_of_issues (h : Issues backend state now call claims) {kind : KeyKind}
    (hkind : claims.kind = some kind.name) :
    ∃ keyCall id row, call = .keys keyCall ∧ claims = keyClaims kind id row ∧
      CreatesKey state.keys (serve backend state now call).keys kind id row := by
  cases h with
  | @key keyCall made id row hcreates =>
      have hsame : made = kind := by
        cases made <;> cases kind <;>
          simp_all [keyClaims, logSourceClaims, apmIngestClaims, rumAppClaims, KeyKind.name]
      subst hsame
      exact ⟨keyCall, id, row, rfl, rfl, hcreates⟩
  | login _ | beginSso | portalLogin | portalRegister =>
      cases kind <;> simp [agentClaims, contactClaims, ssoState, KeyKind.name] at hkind
  | completeSso hlogin _ => cases kind <;> simp [hlogin.claims, agentClaims, KeyKind.name] at hkind

end Kinds

section AgentRoutes

variable {request : Request} {resolved : TenantScopedRequest} {now : Nat}

-- The request has a tenant's id to show and nobody's identity.
def HeaderOnly (request : Request) (resolved : TenantScopedRequest) : Prop :=
  ∃ tenantId, request.xTenantId = some tenantId ∧ isUuid tenantId = true ∧ resolved = ⟨some tenantId, none, none⟩

theorem headerOnly_of_ok (h : tenantHeader request = .ok resolved) : HeaderOnly request resolved := by
  unfold tenantHeader at h
  split at h
  · rename_i tenantId hheader
    obtain ⟨hgiven, huuid⟩ := Option.filter_eq_some_iff.mp hheader
    exact ⟨tenantId, hgiven, huuid, (Except.ok.inj h).symm⟩
  · cases h

theorem tenantHeaderGuard_ok {store : Store}
    (h : tenantHeaderGuard backend.jwt backend.tokens store request now = .ok resolved) :
    HeaderOnly request resolved ∨ ∃ token claims, request.bearer = some token ∧
      Tokens.verifyJwt backend.jwt backend.tokens token now = some claims ∧ claims.kind = some "agent" ∧
      sessionRevoked store claims now = .ok false ∧ resolved = ⟨claims.tenantId, claims.sub, claims.role⟩ := by
  unfold tenantHeaderGuard at h
  split at h
  · exact .inl (headerOnly_of_ok h)
  · rename_i claims hclaims
    obtain ⟨token, htoken, hagent⟩ := Option.bind_eq_some_iff.mp hclaims
    obtain ⟨hverified, hkind⟩ := Option.filter_eq_some_iff.mp hagent
    cases hrevoked : sessionRevoked store claims now with
    | error _ => simp [hrevoked, bind, Except.bind] at h
    | ok revoked =>
        cases revoked with
        | true =>
            simp only [hrevoked, bind, Except.bind, if_true] at h
            exact .inl (headerOnly_of_ok h)
        | false =>
            simp only [hrevoked, bind, Except.bind, Bool.false_eq_true, if_false, pure, Except.pure] at h
            exact .inr ⟨token, claims, htoken, hverified, beq_iff_eq.mp hkind, hrevoked, (Except.ok.inj h).symm⟩

-- The role is one of those required, or there is none and none has to be shown.
def Allowed (rbac : RbacConfig) (requiredRoles : List String) (role : Option String) : Prop :=
  requiredRoles = [] ∨ (∃ name ∈ requiredRoles, role = some name) ∨
    role.getD "" = "" ∧ rbac.requireAuth.getD "false" ≠ "true"

theorem allowed_of_ok {rbac : RbacConfig} {requiredRoles : List String}
    (h : rolesGuard rbac requiredRoles resolved = .ok ()) : Allowed rbac requiredRoles resolved.userRole := by
  unfold rolesGuard at h
  split at h
  · rename_i hnone
    exact .inl hnone
  · split at h
    · rename_i hrole
      split at h
      · cases h
      · rename_i hopen
        refine .inr (.inr ⟨?_, hopen⟩)
        cases hfound : resolved.userRole with
        | none => rfl
        | some role => simpa [hfound] using hrole
    · rename_i role hrole
      split at h
      · rename_i hcontains
        obtain ⟨hfound, -⟩ := Option.filter_eq_some_iff.mp hrole
        exact .inr (.inl ⟨role, List.contains_iff_mem.mp hcontains, hfound⟩)
      · cases h

theorem agentRoute_ok {store : Store} {requiredRoles : List String}
    (h : agentRoute backend.jwt backend.tokens backend.rbac requiredRoles store request now = .ok resolved) :
    tenantHeaderGuard backend.jwt backend.tokens store request now = .ok resolved ∧
      Allowed backend.rbac requiredRoles resolved.userRole := by
  unfold agentRoute at h
  cases hguard : tenantHeaderGuard backend.jwt backend.tokens store request now with
  | error _ => simp [hguard, Except.mapError, bind, Except.bind] at h
  | ok found =>
      cases hroles : rolesGuard backend.rbac requiredRoles found with
      | error _ => simp [hguard, hroles, Except.mapError, bind, Except.bind] at h
      | ok _ =>
          simp only [hguard, hroles, Except.mapError, bind, Except.bind, pure, Except.pure, Except.ok.injEq] at h
          subst h
          exact ⟨rfl, allowed_of_ok hroles⟩

end AgentRoutes

-- The tokens a run is presented with are the ones the platform has signed in it.
def NoForgery (backend : Backend Cipher) (start : AccessState Cipher) (calls : List (Nat × AccessCall)) : Prop :=
  Unforged (system backend) [] start calls

-- The user was signed in earlier with this role, the login through a provider having been
-- begun for the same tenant, and the session has not been revoked.
def HasSession (backend : Backend Cipher) (start : AccessState Cipher) (first : List (Nat × AccessCall)) (now : Nat)
    (tenantId userId role : String) : Prop :=
  ∃ before time call rest email, first = before ++ (time, call) :: rest ∧
    SignsIn backend (after backend start before) time call tenantId userId role ∧
    (∀ code ssoToken newId, call = .completeSso code ssoToken newId →
      ∃ begun nonce, (begun, .beginSso tenantId nonce) ∈ before) ∧
    sessionRevoked (after backend start first).redis ((agentClaims userId tenantId email role).issued time) now = .ok false

theorem ssoTenant_begun (hstamps : backend.jwt.Stamps) {start : AccessState Cipher}
    {before rest : List (Nat × AccessCall)} {time newId : Nat} {code ssoToken tenantId : String}
    (h : NoForgery backend start (before ++ (time, .completeSso code ssoToken newId) :: rest))
    (htenant : tenantOfState backend.toSsoEnvironment ssoToken time = .ok tenantId) :
    ∃ begun nonce, (begun, .beginSso tenantId nonce) ∈ before := by
  unfold tenantOfState at htenant
  split at htenant
  · cases htenant
  · rename_i found hfound
    obtain ⟨decoded, hverified, hstate⟩ := Option.bind_eq_some_iff.mp hfound
    split at hstate
    · rename_i hpurpose
      obtain ⟨hdecoded, -⟩ := Option.filter_eq_some_iff.mp hstate
      obtain ⟨begun, issuing, claims, ⟨earlier, later, rfl, hissues⟩, rfl⟩ :=
        issuedAmong_of_presented hstamps h List.mem_cons_self hverified
      obtain ⟨stated, nonce, rfl, rfl⟩ := beginSso_of_issues hissues hpurpose
      obtain rfl : stated = tenantId := by
        rw [Except.ok.injEq] at htenant
        exact (Option.some.inj hdecoded).trans htenant
      exact ⟨begun, nonce, List.mem_append_right _ List.mem_cons_self⟩
    · cases hstate

-- A route of the agents' app lets a request through either under no identity at all, or
-- under one that the run has signed in before.
theorem agent_requests_authenticated (hstamps : backend.jwt.Stamps) (start : AccessState Cipher)
    (calls : List (Nat × AccessCall)) (hforgery : NoForgery backend start calls)
    (first rest : List (Nat × AccessCall)) (now : Nat) (requiredRoles : List String) (request : Request)
    (hcalls : calls = first ++ (now, .request (.agent requiredRoles) request) :: rest)
    (resolved : TenantScopedRequest)
    (haccepted : agentRoute backend.jwt backend.tokens backend.rbac requiredRoles (after backend start first).redis
      request now = .ok resolved) :
    Allowed backend.rbac requiredRoles resolved.userRole ∧
      (HeaderOnly request resolved ∨ ∃ tenantId userId role, resolved = ⟨some tenantId, some userId, some role⟩ ∧
        HasSession backend start first now tenantId userId role) := by
  subst hcalls
  obtain ⟨hguard, hallowed⟩ := agentRoute_ok haccepted
  refine ⟨hallowed, (tenantHeaderGuard_ok hguard).imp_right ?_⟩
  rintro ⟨token, payload, htoken, hverified, hkind, hrevoked, rfl⟩
  obtain ⟨time, call, claims, ⟨before, later, rfl, hissues⟩, rfl⟩ :=
    issuedAmong_of_presented hstamps hforgery (Option.mem_toList.mpr htoken) hverified
  obtain ⟨tenantId, userId, email, role, rfl, hsigns⟩ := signsIn_of_issues hissues hkind
  refine ⟨tenantId, userId, role, rfl, before, time, call, later, email, rfl, hsigns, ?_, hrevoked⟩
  rintro code ssoToken newId rfl
  cases hsigns with
  | provider hlogin _ =>
      rw [List.append_assoc, List.cons_append] at hforgery
      exact ssoTenant_begun hstamps hforgery hlogin.tenant

section Examples

-- A library that has been asked for one token only.
def oneTokenJwt (token : String) (payload : JwtPayload) (time : Nat) : TokenLibrary where
  sign claims _ _ now := if claims = payload ∧ now = time then token else "unknown"
  verify text _ _ := if text = token then some (payload.issued time) else none

theorem oneTokenJwt_stamps {token : String} (hknown : token ≠ "unknown") (payload : JwtPayload) (time : Nat) :
    (oneTokenJwt token payload time).Stamps := by
  intro claims secret expiresIn issued now found _ hfound
  simp only [oneTokenJwt] at hfound
  by_cases hsame : claims = payload ∧ issued = time
  · obtain ⟨rfl, rfl⟩ := hsame
    simpa using hfound.symm
  · simp [hsame, Ne.symm hknown] at hfound

def generatedId : IntakeKey → Nat
  | .generated id => id
  | .counter _ | .cursor _ _ => 0

-- An id above all there are.
def nextContactId (contacts : Table IntakeKey PortalRow) : IntakeKey :=
  .generated ((contacts.keys.map generatedId).sum + 1)

theorem nextContactId_fresh (contacts : Table IntakeKey PortalRow) : nextContactId contacts ∉ contacts := by
  intro hmem
  have hle : generatedId (nextContactId contacts) ≤ (contacts.keys.map generatedId).sum :=
    List.le_sum_of_mem (List.mem_map_of_mem (AList.mem_keys.mp hmem))
  simp [nextContactId, generatedId] at hle

def demoBackend (jwt : TokenLibrary) : Backend String where
  jwt := jwt
  tokens := { jwtSecret := none, jwtExpiresIn := none, deviceJwtExpiresIn := none }
  auth := plainEnvironment
  oidc := { exchangeCode := fun _ _ _ => .error "unreachable", fetchUserInfo := fun _ _ => .error "unreachable" }
  apiPublicUrl := none
  rbac := ⟨some "true"⟩
  ingestLimits := ⟨600, 60⟩
  toLowerCase text := text
  uuidText id := toString id
  hash password _ := password
  contactIds := ⟨.stored _, nextContactId, nextContactId_fresh⟩

def demoStart : AccessState String where
  redis := ∅
  users _ := (∅ : Users String).insert 1
    { email := "ann@example.com", passwordHash := "hash", name := "Ann", role := "admin",
      totpSecretEncrypted := none, totpEnabled := false }
  ssoConfigs := ∅
  contacts := ∅
  keys := ⟨(∅ : Table String String).insert "r1" "t1", ∅, ∅, ∅, ∅⟩

-- A call that brings no token, and one that brings the token it has handed out.
theorem noForgery_pair {backend : Backend Cipher} {start : AccessState Cipher}
    {issuing presenting : Nat × AccessCall} {claims : JwtPayload} {token : String}
    (hissued : handedOut backend start issuing.1 issuing.2 = some (claims, token)) (hnone : issuing.2.tokens = [])
    (hgiven : presenting.2.tokens = [token]) : NoForgery backend start [issuing, presenting] := by
  have hsigned : (token, claims.issued issuing.1) ∈ (system backend).signs start issuing :=
    Option.mem_toList.mpr (Option.map_eq_some_iff.mpr ⟨_, hissued, rfl⟩)
  refine ⟨fun other hother => ?_, fun other hother _ => ?_, trivial⟩
  · change other ∈ issuing.2.tokens at hother
    simp [hnone] at hother
  · change other ∈ presenting.2.tokens at hother
    rw [hgiven, List.mem_singleton] at hother
    exact hother ▸ List.mem_map.mpr ⟨_, hsigned, rfl⟩

def annSession : JwtPayload := agentClaims "1" "t1" "ann@example.com" "admin"

def annBackend : Backend String := demoBackend (oneTokenJwt "good" annSession 1000000)

def annLogin : Nat × AccessCall := (1000000, .login "t1" "ann@example.com" "hash" none)

def annRequest : Request := { authorization := some "Bearer good" }

theorem annLogin_handedOut : handedOut annBackend demoStart 1000000 annLogin.2 = some (annSession, "good") := by rfl

theorem loginThenRequest_session : HasSession annBackend demoStart [annLogin] 1001000 "t1" "1" "admin" := by
  have haccepted := agent_requests_authenticated (oneTokenJwt_stamps (by decide) _ _) demoStart
    [annLogin, (1001000, .request (.agent ["admin"]) annRequest)] (noForgery_pair annLogin_handedOut rfl rfl)
    [annLogin] [] 1001000 ["admin"] annRequest rfl ⟨some "t1", some "1", some "admin"⟩ (by rfl)
  obtain ⟨-, ⟨_, hheader, -⟩ | ⟨tenantId, userId, role, hresolved, hsession⟩⟩ := haccepted
  · cases hheader
  · cases hresolved
    exact hsession

end Examples

-- The portal lets a contact's request through only once the contact has signed in.
theorem contact_requests_authenticated (hstamps : backend.jwt.Stamps) (start : AccessState Cipher)
    (calls : List (Nat × AccessCall)) (hforgery : NoForgery backend start calls)
    (first rest : List (Nat × AccessCall)) (now : Nat) (request : Request)
    (hcalls : calls = first ++ (now, .request .portal request) :: rest) (resolved : ContactScopedRequest)
    (haccepted : portalAuthGuard backend.jwt backend.tokens request now = .ok resolved) :
    ∃ before time call later tenantId id, first = before ++ (time, call) :: later ∧
      ContactSignsIn backend (after backend start before) time call tenantId id ∧
      resolved = ⟨some (backend.uuidText tenantId), some (backend.uuidText id)⟩ := by
  subst hcalls
  unfold portalAuthGuard at haccepted
  split at haccepted
  · cases haccepted
  · rename_i token htoken
    split at haccepted
    · cases haccepted
    · rename_i payload hverified
      obtain ⟨hopens, hkind⟩ := verifyKind_eq_some.mp hverified
      obtain ⟨time, call, claims, ⟨before, later, rfl, hissues⟩, rfl⟩ :=
        issuedAmong_of_presented hstamps hforgery (Option.mem_toList.mpr htoken) hopens
      obtain ⟨tenantId, id, email, rfl, hsigns⟩ := contactSignsIn_of_issues hissues hkind
      exact ⟨before, time, call, later, tenantId, id, rfl, hsigns, (Except.ok.inj haccepted).symm⟩

section Examples

def contactSession : JwtPayload := contactClaims "1" "7" "bob@example.com"

def bobBackend : Backend String := demoBackend (oneTokenJwt "good" contactSession 1000000)

def bobRegister : Nat × AccessCall := (1000000, .portal (.register 7 ⟨"Bob", "bob@example.com", "pw"⟩ "salt"))

def bobRequest : Request := { authorization := some "Bearer good" }

theorem bobRegister_handedOut :
    handedOut bobBackend demoStart 1000000 bobRegister.2 = some (contactSession, "good") := by rfl

theorem registerThenRequest_signed_in :
    ∃ before time call later tenantId id, [bobRegister] = before ++ (time, call) :: later ∧
      ContactSignsIn bobBackend (after bobBackend demoStart before) time call tenantId id ∧
      (⟨some "7", some "1"⟩ : ContactScopedRequest) =
        ⟨some (bobBackend.uuidText tenantId), some (bobBackend.uuidText id)⟩ :=
  contact_requests_authenticated (oneTokenJwt_stamps (by decide) _ _) demoStart
    [bobRegister, (1001000, .request .portal bobRequest)] (noForgery_pair bobRegister_handedOut rfl rfl) [bobRegister] []
    1001000 bobRequest rfl _ (by rfl)

end Examples

end CloudOps.Platform.Access
