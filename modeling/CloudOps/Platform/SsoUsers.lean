import CloudOps.Platform.AuthenticatedRequests

namespace CloudOps.Platform.Access

open CloudOps.Platform.Tokens
open CloudOps.ReadCommitted (Table)

variable {Cipher : Type}

section Users

-- No two of a tenant's users have the same email.
def UniqueEmails (users : Users Cipher) : Prop :=
  ∀ id other user otherUser, users.lookup id = some user → users.lookup other = some otherUser →
    user.email = otherUser.email → id = other

-- The users there were are there as they were.
def Keeps (users after : Users Cipher) : Prop :=
  ∀ id user, users.lookup id = some user → after.lookup id = some user

-- An SSO login either finds the profile's user or makes one without a password.
inductive Provisions (users : Users Cipher) (profile : OidcUserInfo) (defaultRole : String) :
    Nat → User Cipher → Users Cipher → Prop where
  | found {id : Nat} {user : User Cipher} : users.lookup id = some user → user.email = profile.email →
      Provisions users profile defaultRole id user users
  | made {id : Nat} : (∀ other user, users.lookup other = some user → user.email ≠ profile.email) → id ∉ users →
      Provisions users profile defaultRole id
        ⟨profile.email, "", profile.name.getD profile.email, defaultRole, none, false⟩
        (users.insert id ⟨profile.email, "", profile.name.getD profile.email, defaultRole, none, false⟩)

variable {users after : Users Cipher} {profile : OidcUserInfo} {defaultRole : String} {id : Nat} {user : User Cipher}

theorem provisions_of_ok {newId : Nat} (h : matchOrProvision users profile defaultRole newId = .ok (id, user, after)) :
    Provisions users profile defaultRole id user after := by
  unfold matchOrProvision at h
  split at h
  · rename_i foundId found hfind
    obtain ⟨rfl, rfl, rfl⟩ : foundId = id ∧ found = user ∧ users = after := by simpa using h
    exact .found (Table.mem_rows.mp (List.mem_of_find?_eq_some hfind)) (by simpa using List.find?_some hfind)
  · rename_i hnone
    split at h
    · cases h
    · rename_i hfresh
      obtain ⟨rfl, rfl, rfl⟩ : newId = id ∧ _ = user ∧ _ = after := by simpa using h
      refine .made (fun other otherUser hother hemail => ?_) hfresh
      have := List.find?_eq_none.mp hnone (other, otherUser) (Table.mem_rows.mpr hother)
      simp [hemail] at this

theorem Provisions.keeps (h : Provisions users profile defaultRole id user after) : Keeps users after := by
  cases h with
  | found _ _ => exact fun _ _ hrow => hrow
  | made _ hfresh =>
      intro other otherUser hother
      have hne : other ≠ id := fun he => hfresh (he ▸ Table.mem_of_lookup hother)
      rw [AList.lookup_insert_ne hne]
      exact hother

theorem Provisions.uniqueEmails (h : Provisions users profile defaultRole id user after) (hunique : UniqueEmails users) :
    UniqueEmails after := by
  cases h with
  | found _ _ => exact hunique
  | made hnone hfresh =>
      intro first second firstUser secondUser hfirst hsecond hemail
      rw [Table.lookup_insert_eq] at hfirst hsecond
      split at hfirst <;> split at hsecond
      · rename_i hone hother
        rw [hone, hother]
      · obtain rfl := Option.some.inj hfirst
        exact absurd hemail.symm (hnone _ _ hsecond)
      · obtain rfl := Option.some.inj hsecond
        exact absurd hemail (hnone _ _ hfirst)
      · exact hunique _ _ _ _ hfirst hsecond hemail

theorem Provisions.row (h : Provisions users profile defaultRole id user after) : after.lookup id = some user := by
  cases h with
  | found hrow _ => exact hrow
  | made _ _ => exact AList.lookup_insert _

end Users

section Sessions

variable {env : SsoEnvironment Cipher}

theorem lookup_of_loaded {configs : SsoConfigs Cipher} {tenantId clientSecret : String} {config : SsoConfig Cipher}
    (h : loadConfig env configs tenantId = .ok (some (config, clientSecret))) :
    configs.lookup tenantId = some config := by
  unfold loadConfig at h
  split at h
  · cases h
  · rename_i found hfound
    cases hdecrypt : env.auth.pgpSymDecrypt found.clientSecretEncrypted env.auth.credentialsEncryptionKey with
    | error _ => simp [hdecrypt, Except.map] at h
    | ok secret =>
        obtain ⟨rfl, -⟩ : found = config ∧ secret = clientSecret := by simpa [hdecrypt, Except.map] using h
        exact hfound

-- A login through the provider, with the configuration it was made under.
theorem provisions_of_session {configs : SsoConfigs Cipher} {users : String → Users Cipher} {code state : String}
    {newId now : Nat} {session : SsoSession Cipher}
    (h : completeLogin env configs users code state newId now = .ok session) :
    ∃ config profile, configs.lookup session.tenantId = some config ∧
      Provisions (users session.tenantId) profile config.defaultRole session.userId session.user session.users := by
  unfold completeLogin at h
  cases htenant : tenantOfState env state now with
  | error _ => simp [htenant, bind, Except.bind] at h
  | ok tenantId =>
      cases hloaded : loadConfig env configs tenantId with
      | error _ => simp [htenant, hloaded, bind, Except.bind] at h
      | ok loaded =>
          simp only [htenant, hloaded, bind, Except.bind] at h
          cases loaded with
          | none => cases h
          | some loaded =>
              obtain ⟨config, clientSecret⟩ := loaded
              dsimp only at h
              split at h
              · cases hprofile : fetchProfile env config clientSecret code with
                | error _ => simp [hprofile] at h
                | ok profile =>
                    simp only [hprofile] at h
                    cases huser : matchOrProvision (users tenantId) profile config.defaultRole newId with
                    | error _ => simp [huser] at h
                    | ok provisioned =>
                        simp only [huser, pure, Except.pure] at h
                        obtain rfl := Except.ok.inj h
                        exact ⟨config, profile, lookup_of_loaded hloaded, provisions_of_ok huser⟩
              · cases h

end Sessions

section Runs

variable (backend : Backend Cipher)

-- A login through the provider that comes through.
def Completes (state : AccessState Cipher) (event : Nat × AccessCall) (session : SsoSession Cipher) : Prop :=
  ∃ code ssoToken newId, event.2 = .completeSso code ssoToken newId ∧
    completeLogin backend.toSsoEnvironment state.ssoConfigs state.users code ssoToken newId event.1 = .ok session

variable {backend}

theorem users_serve (backend : Backend Cipher) (state : AccessState Cipher) (event : Nat × AccessCall) :
    ((system backend).step state event).users = state.users ∨ ∃ session, Completes backend state event session ∧
      ((system backend).step state event).users = Function.update state.users session.tenantId session.users := by
  obtain ⟨now, call⟩ := event
  change (serve backend state now call).users = _ ∨ ∃ _, _ ∧ (serve backend state now call).users = _
  cases call with
  | completeSso code ssoToken newId =>
      cases hsession : completeLogin backend.toSsoEnvironment state.ssoConfigs state.users code ssoToken newId now with
      | error _ => exact .inl (by simp only [serve, hsession])
      | ok session => exact .inr ⟨session, ⟨_, _, _, rfl, hsession⟩, by simp only [serve, hsession]⟩
  | login _ _ _ _ | logout _ | configureSso _ _ _ | beginSso _ _ | portal _ | keys _ | request _ _ | collect _ =>
      exact .inl rfl

theorem provisions_of_completes {state : AccessState Cipher} {event : Nat × AccessCall} {session : SsoSession Cipher}
    (h : Completes backend state event session) :
    ∃ config profile, state.ssoConfigs.lookup session.tenantId = some config ∧
      Provisions (state.users session.tenantId) profile config.defaultRole session.userId session.user session.users := by
  obtain ⟨_, _, _, -, hsession⟩ := h
  exact provisions_of_session hsession

theorem keeps_step (state : AccessState Cipher) (event : Nat × AccessCall) (tenantId : String) :
    Keeps (state.users tenantId) (((system backend).step state event).users tenantId) := by
  obtain husers | ⟨session, hcompletes, husers⟩ := users_serve backend state event
  · rw [husers]
    exact fun _ _ hrow => hrow
  · obtain ⟨_, _, -, hprovisions⟩ := provisions_of_completes hcompletes
    rw [husers]
    by_cases hsame : tenantId = session.tenantId
    · subst hsame
      rw [Function.update_self]
      exact hprovisions.keeps
    · rw [Function.update_of_ne hsame]
      exact fun _ _ hrow => hrow

theorem uniqueEmails_step (state : AccessState Cipher) (event : Nat × AccessCall)
    (h : ∀ tenantId, UniqueEmails (state.users tenantId)) (tenantId : String) :
    UniqueEmails (((system backend).step state event).users tenantId) := by
  obtain husers | ⟨session, hcompletes, husers⟩ := users_serve backend state event
  · rw [husers]
    exact h tenantId
  · obtain ⟨_, _, -, hprovisions⟩ := provisions_of_completes hcompletes
    rw [husers]
    by_cases hsame : tenantId = session.tenantId
    · subst hsame
      rw [Function.update_self]
      exact hprovisions.uniqueEmails (h _)
    · rw [Function.update_of_ne hsame]
      exact h tenantId

theorem keeps_after (backend : Backend Cipher) (start : AccessState Cipher) (calls : List (Nat × AccessCall))
    (tenantId : String) : Keeps (start.users tenantId) ((after backend start calls).users tenantId) :=
  Runs.related_of_step (fun state later : AccessState Cipher => Keeps (state.users tenantId) (later.users tenantId))
    (fun _ _ _ hrow => hrow) (fun _ _ _ hfirst hsecond id user hrow => hsecond id user (hfirst id user hrow))
    (fun state event => keeps_step state event tenantId) start calls

theorem uniqueEmails_after (start : AccessState Cipher) (calls : List (Nat × AccessCall))
    (h : ∀ tenantId, UniqueEmails (start.users tenantId)) (tenantId : String) :
    UniqueEmails ((after backend start calls).users tenantId) :=
  (Runs.always_of_step (fun state : AccessState Cipher => ∀ tenantId, UniqueEmails (state.users tenantId)) h
    (fun state event hunique => uniqueEmails_step state event hunique) calls).last tenantId

theorem row_of_completes {state : AccessState Cipher} {event : Nat × AccessCall} {session : SsoSession Cipher}
    (h : Completes backend state event session) :
    (((system backend).step state event).users session.tenantId).lookup session.userId = some session.user := by
  obtain ⟨_, _, -, hprovisions⟩ := provisions_of_completes h
  obtain ⟨code, ssoToken, newId, hcall, hsession⟩ := h
  obtain ⟨now, call⟩ := event
  subst hcall
  change ((serve backend state now (.completeSso code ssoToken newId)).users _).lookup _ = _
  simp only [serve, hsession, Function.update_self]
  exact hprovisions.row

-- However often and in whatever order users come through the provider of a tenant, with
-- whatever else happens between, the same email is always the same user with the same role.
theorem sso_logins_same_user (start : AccessState Cipher) (hunique : ∀ tenantId, UniqueEmails (start.users tenantId))
    (before between : List (Nat × AccessCall)) (event later : Nat × AccessCall) (first second : SsoSession Cipher)
    (hfirst : Completes backend (after backend start before) event first)
    (hsecond : Completes backend (after backend start (before ++ event :: between)) later second)
    (htenant : second.tenantId = first.tenantId) (hemail : second.user.email = first.user.email) :
    second.userId = first.userId ∧ second.user = first.user := by
  have hstep : after backend start (before ++ event :: between ++ [later]) =
      (system backend).step (after backend start (before ++ event :: between)) later := by
    rw [after, Runs.run_append]
    rfl
  have hkept : after backend start (before ++ event :: between ++ [later]) =
      after backend ((system backend).step (after backend start before) event) (between ++ [later]) := by
    rw [after, List.append_assoc, Runs.run_append]
    rfl
  have hlast := row_of_completes hsecond
  rw [← hstep, htenant] at hlast
  have hone := keeps_after backend ((system backend).step (after backend start before) event) (between ++ [later])
    first.tenantId _ _ (row_of_completes hfirst)
  rw [← hkept] at hone
  have hid := uniqueEmails_after start (before ++ event :: between ++ [later]) hunique first.tenantId _ _ _ _
    hlast hone hemail
  rw [hid, hone] at hlast
  exact ⟨hid, (Option.some.inj hlast).symm⟩

section Examples

def ssoBackend : Backend String :=
  { demoBackend (oneTokenJwt "state" (ssoState "t1" "nonce") 1000000) with
    auth := { plainEnvironment with compare := fun password hash => hash ≠ "" && password == hash }
    oidc :=
      { exchangeCode := fun _ _ _ => .ok "access"
        fetchUserInfo := fun _ _ => .ok ⟨"sub", "eve@example.com", none⟩ } }

def ssoStart : AccessState String :=
  { demoStart with
    ssoConfigs := (∅ : Table String (SsoConfig String)).insert "t1"
      ⟨"issuer", "client", "secret", "authorize", "token", "userinfo", "viewer", true⟩ }

def eveLogin (newId : Nat) : Nat × AccessCall := (1001000, .completeSso "code" "state" newId)

def eve : User String := ⟨"eve@example.com", "", "eve@example.com", "viewer", none, false⟩

def eveSession (users : Users String) : SsoSession String :=
  ⟨"t1", 5, eve, users, agentClaims "5" "t1" "eve@example.com" "viewer", "unknown"⟩

theorem eve_first : Completes ssoBackend ssoStart (eveLogin 5) (eveSession ((ssoStart.users "t1").insert 5 eve)) :=
  ⟨"code", "state", 5, rfl, by rfl⟩

theorem eve_again : Completes ssoBackend (after ssoBackend ssoStart [eveLogin 5]) (eveLogin 6)
    (eveSession ((ssoStart.users "t1").insert 5 eve)) :=
  ⟨"code", "state", 6, rfl, by rfl⟩

theorem ssoStart_unique (tenantId : String) : UniqueEmails (ssoStart.users tenantId) := by
  intro id other user otherUser hrow hother _
  have hone : ∀ {id : Nat} {user : User String}, (ssoStart.users tenantId).lookup id = some user → id = 1 := by
    intro id user h
    simp only [ssoStart, demoStart, Table.lookup_insert_eq] at h
    split at h
    · assumption
    · simp at h
  rw [hone hrow, hone hother]

theorem loginTwice_same_user : ∃ first second,
    Completes ssoBackend ssoStart (eveLogin 5) first ∧
      Completes ssoBackend (after ssoBackend ssoStart [eveLogin 5]) (eveLogin 6) second ∧
      second.userId = first.userId ∧ second.user = first.user :=
  ⟨_, _, eve_first, eve_again,
    sso_logins_same_user ssoStart ssoStart_unique [] [] (eveLogin 5) (eveLogin 6) _ _ eve_first eve_again rfl rfl⟩

end Examples

-- The run has made the user, in a login through the tenant's provider.
def ProvisionedIn (backend : Backend Cipher) (start : AccessState Cipher) (calls : List (Nat × AccessCall))
    (tenantId : String) (id : Nat) (user : User Cipher) : Prop :=
  ∃ before event later session config, calls = before ++ event :: later ∧
    Completes backend (after backend start before) event session ∧
    (after backend start before).ssoConfigs.lookup tenantId = some config ∧
    session.tenantId = tenantId ∧ session.userId = id ∧ session.user = user ∧
    user.role = config.defaultRole ∧ user.passwordHash = ""

theorem ProvisionedIn.append {start : AccessState Cipher} {calls : List (Nat × AccessCall)} {tenantId : String} {id : Nat}
    {user : User Cipher} (h : ProvisionedIn backend start calls tenantId id user) (rest : List (Nat × AccessCall)) :
    ProvisionedIn backend start (calls ++ rest) tenantId id user := by
  obtain ⟨before, event, later, session, config, rfl, hfound⟩ := h
  exact ⟨before, event, later ++ rest, session, config, by simp, hfound⟩

-- Every user is one of the start's, unchanged, or one the run has made.
theorem known_or_provisioned (start : AccessState Cipher) (calls : List (Nat × AccessCall)) {tenantId : String} {id : Nat}
    {user : User Cipher} (hrow : ((after backend start calls).users tenantId).lookup id = some user) :
    (start.users tenantId).lookup id = some user ∨ ProvisionedIn backend start calls tenantId id user := by
  induction calls using List.reverseRecOn with
  | nil => exact .inl hrow
  | append_singleton calls event ih =>
      have hstep : after backend start (calls ++ [event]) = (system backend).step (after backend start calls) event := by
        rw [after, Runs.run_append]
        rfl
      have hearlier : ((after backend start calls).users tenantId).lookup id = some user →
          (start.users tenantId).lookup id = some user ∨
            ProvisionedIn backend start (calls ++ [event]) tenantId id user := fun h =>
        (ih h).imp_right fun hmade => hmade.append [event]
      rw [hstep] at hrow
      obtain husers | ⟨session, hcompletes, husers⟩ := users_serve backend (after backend start calls) event
      · rw [husers] at hrow
        exact hearlier hrow
      · rw [husers] at hrow
        by_cases hsame : tenantId = session.tenantId
        · subst hsame
          rw [Function.update_self] at hrow
          obtain ⟨config, profile, hconfig, hprovisions⟩ := provisions_of_completes hcompletes
          generalize hmade : session.user = made at hprovisions
          generalize hmadeId : session.userId = madeId at hprovisions
          generalize session.users = users at hprovisions hrow
          cases hprovisions with
          | found _ _ => exact hearlier hrow
          | made _ _ =>
              rw [Table.lookup_insert_eq] at hrow
              split at hrow
              · rename_i hid
                obtain rfl := Option.some.inj hrow
                exact .inr ⟨calls, event, [], session, config, rfl, hcompletes, hconfig, rfl, hmadeId.trans hid.symm,
                  hmade, rfl, rfl⟩
              · exact hearlier hrow
        · rw [Function.update_of_ne hsame] at hrow
          exact hearlier hrow

-- Whoever signs in during a run was a user before it, with that role, or is one whom a
-- login through the provider has made, with the role the tenant's configuration gave then;
-- and such a user comes in through the provider only, a password being no use.
theorem sign_ins_known_or_provisioned (hcompare : ∀ password, backend.auth.compare password "" = false)
    (start : AccessState Cipher) (first : List (Nat × AccessCall)) (now : Nat) (call : AccessCall)
    (tenantId userId role : String) (hsigns : SignsIn backend (after backend start first) now call tenantId userId role) :
    ∃ id user, userId = toString id ∧ user.role = role ∧
      ((start.users tenantId).lookup id = some user ∨
        ProvisionedIn backend start (first ++ [(now, call)]) tenantId id user ∧
          ∃ code ssoToken newId, call = .completeSso code ssoToken newId) := by
  cases hsigns with
  | @password tenantId email password totpCode id user hlogin =>
      refine ⟨id, user, rfl, rfl, ?_⟩
      obtain hstart | ⟨_, _, _, _, _, _, _, _, _, _, _, _, hblank⟩ := known_or_provisioned start first hlogin.row
      · exact .inl hstart
      · have hopen := hlogin.password
        rw [hblank] at hopen
        exact absurd (hcompare password) (by rw [hopen]; decide)
  | @provider code ssoToken newId session hlogin husers =>
      refine ⟨session.userId, session.user, rfl, rfl, ?_⟩
      have hstep : after backend start (first ++ [(now, .completeSso code ssoToken newId)]) =
          serve backend (after backend start first) now (.completeSso code ssoToken newId) := by
        rw [after, Runs.run_append]
        rfl
      have hrow := hlogin.row
      rw [← husers, ← hstep] at hrow
      exact (known_or_provisioned start _ hrow).imp_right fun hmade => ⟨hmade, _, _, _, rfl⟩

section Examples

theorem eve_signsIn : SignsIn ssoBackend ssoStart 1001000 (eveLogin 5).2 "t1" "5" "viewer" := by
  have hsession : SsoLogin ssoBackend.toSsoEnvironment ssoStart.ssoConfigs "code" "state" 1001000
      (eveSession ((ssoStart.users "t1").insert 5 eve)) :=
    ssoLogin_of_session (show completeLogin _ _ ssoStart.users _ _ 5 _ = _ by rfl)
  exact .provider hsession (by rfl)

theorem firstLogin_provisioned : ∃ id user, "5" = toString id ∧ user.role = "viewer" ∧
    ((ssoStart.users "t1").lookup id = some user ∨
      ProvisionedIn ssoBackend ssoStart [eveLogin 5] "t1" id user ∧
        ∃ code ssoToken newId, (eveLogin 5).2 = .completeSso code ssoToken newId) :=
  sign_ins_known_or_provisioned (fun password => by simp [ssoBackend, demoBackend]) ssoStart [] 1001000 (eveLogin 5).2
    "t1" "5" "viewer" eve_signsIn

end Examples

end Runs

end CloudOps.Platform.Access
