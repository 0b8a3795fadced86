import CloudOps.Platform.Totp
import CloudOps.ReadCommitted.Table
import CloudOps.Runs

namespace CloudOps.Platform

open CloudOps.ReadCommitted (Table)

variable {Cipher : Type}

structure User (Cipher : Type) where
  email : String
  passwordHash : String
  name : String
  role : String
  totpSecretEncrypted : Option Cipher
  totpEnabled : Bool

abbrev Users (Cipher : Type) := Table Nat (User Cipher)

-- What the database and the libraries compute. An encryption takes a salt of the
-- database's choosing; a decryption may raise an error.
structure AuthEnvironment (Cipher : Type) where
  hmac : HmacSha1
  pgpSymEncrypt : String → String → Nat → Cipher
  pgpSymDecrypt : Cipher → String → Except ServiceError String
  compare : String → String → Bool
  credentialsEncryptionKey : String
  tenantId : String

structure Setup where
  secret : String
  otpauthUri : String

structure ThrottleResult where
  allowed : Bool
  retryAfterSeconds : Nat

structure TokenClaims where
  sub : Nat
  tenantId : String
  email : String
  role : String
  kind : String

inductive LoginReply where
  | mfaRequired
  | token (claims : TokenClaims) (name : String)

variable (env : AuthEnvironment Cipher)

-- pgp_sym_decrypt(totp_secret_encrypted, key) AS secret
def decryptedSecret (user : User Cipher) : Except ServiceError (Option String) :=
  match user.totpSecretEncrypted with
  | none => .ok none
  | some cipher => some <$> env.pgpSymDecrypt cipher env.credentialsEncryptionKey

def status (users : Users Cipher) (userId : Nat) : Except ServiceError Bool :=
  match users.lookup userId with
  | none => .error (.unauthorized "User not found")
  | some user => .ok user.totpEnabled

def beginSetup (users : Users Cipher) (userId : Nat) (randomBytes : Vector UInt8 20) (salt : Nat) :
    Except ServiceError (Setup × Users Cipher) :=
  let secret := generateTotpSecret randomBytes
  match users.lookup userId with
  | none => .error (.unauthorized "User not found")
  | some user =>
      let cipher := env.pgpSymEncrypt secret env.credentialsEncryptionKey salt
      .ok (⟨secret, otpauthUri secret user.email⟩,
        users.insert userId { user with totpSecretEncrypted := some cipher, totpEnabled := false })

def enable (users : Users Cipher) (userId : Nat) (code : String) (now : Nat) :
    Except ServiceError (Users Cipher) :=
  match (users.lookup userId).filter fun user => user.totpSecretEncrypted.isSome with
  | none => .error (.badRequest "Start 2FA setup before enabling it")
  | some user => do
      let secret ← decryptedSecret env user
      if ← verifyTotp env.hmac secret code now then
        return users.insert userId { user with totpEnabled := true }
      else .error (.unauthorized "Invalid authentication code")

def disable (users : Users Cipher) (userId : Nat) (code : String) (now : Nat) :
    Except ServiceError (Users Cipher) :=
  match (users.lookup userId).filter fun user => user.totpEnabled with
  | none => .error (.badRequest "2FA is not enabled for this account")
  | some user => do
      let secret ← decryptedSecret env user
      if ← verifyTotp env.hmac secret code now then
        return users.insert userId { user with totpEnabled := false, totpSecretEncrypted := none }
      else .error (.unauthorized "Invalid authentication code")

-- AuthService.login after the throttle has counted the attempt.
def login (users : Users Cipher) (email password : String) (totpCode : Option String)
    (throttle : ThrottleResult) (now : Nat) : Except ServiceError LoginReply :=
  if !throttle.allowed then
    let seconds := throttle.retryAfterSeconds
    .error (.tooManyRequests s!"Too many login attempts. Try again in {seconds} seconds.")
  else match users.rows.find? fun row => row.2.email == email with
    | none => .error (.unauthorized "Invalid email or password")
    | some (userId, user) => do
        if !env.compare password user.passwordHash then
          .error (.unauthorized "Invalid email or password")
        let token := LoginReply.token
          { sub := userId
            tenantId := env.tenantId
            email := user.email
            role := user.role
            kind := "agent" } user.name
        if !user.totpEnabled then return token
        match totpCode.filter fun code => code ≠ "" with
        | none => return .mfaRequired
        | some code =>
            let secret ← decryptedSecret env user
            if ← verifyTotp env.hmac secret code now then return token
            else .error (.unauthorized "Invalid authentication code")

inductive MfaCall where
  | status (userId : Nat)
  | beginSetup (userId : Nat) (randomBytes : Vector UInt8 20) (salt : Nat)
  | enable (userId : Nat) (code : String) (now : Nat)
  | disable (userId : Nat) (code : String) (now : Nat)
  | login (email password : String) (totpCode : Option String) (throttle : ThrottleResult) (now : Nat)

-- A call that throws is rolled back.
def step (users : Users Cipher) : MfaCall → Users Cipher
  | .status _ => users
  | .beginSetup userId randomBytes salt =>
      match beginSetup env users userId randomBytes salt with
      | .ok (_, after) => after
      | .error _ => users
  | .enable userId code now => (enable env users userId code now).toOption.getD users
  | .disable userId code now => (disable env users userId code now).toOption.getD users
  | .login .. => users

-- The call presents a code that is accepted against the secret stored for the user.
def Presents (users : Users Cipher) (userId : Nat) : MfaCall → Prop
  | .enable _ code now | .disable _ code now | .login _ _ (some code) _ now =>
      ∃ user secret, users.lookup userId = some user ∧
        decryptedSecret env user = .ok (some secret) ∧
        verifyTotp env.hmac (some secret) code now = .ok true
  | .status _ | .beginSetup .. | .login _ _ none _ _ => False

-- A user with the second factor on keeps it, with its secret, unless the call
-- presents a code.
def KeepsSecondFactor (users : Users Cipher) (call : MfaCall) : Prop :=
  ∀ userId user, users.lookup userId = some user → user.totpEnabled = true →
    (∃ after, (step env users call).lookup userId = some after ∧ after.totpEnabled = true ∧
      after.totpSecretEncrypted = user.totpSecretEncrypted) ∨
    Presents env users userId call

-- The call does not begin a setup for a user who has the second factor on.
def NoSetupWhileEnabled (users : Users Cipher) : MfaCall → Prop
  | .beginSetup userId _ _ => ∀ user ∈ users.lookup userId, user.totpEnabled = false
  | .status _ | .enable .. | .disable .. | .login .. => True

theorem exists_of_verifyTotp {hmac : HmacSha1} {secret : Option String} {code : String} {now : Nat}
    (h : verifyTotp hmac secret code now = .ok true) : ∃ text, secret = some text := by
  cases secret with
  | some text => exact ⟨text, rfl⟩
  | none =>
      unfold verifyTotp at h
      dsimp only at h
      split at h
      · simp at h
      · simp at h

-- Both changes of the flag, and a login, stand behind the same check.
theorem ok_of_codeChecked {α : Type} {user : User Cipher} {code : String} {now : Nat}
    {changed after : α}
    (h : (do
      let secret ← decryptedSecret env user
      if ← verifyTotp env.hmac secret code now then return changed
      else .error (.unauthorized "Invalid authentication code")) = Except.ok after) :
    ∃ secret, decryptedSecret env user = .ok (some secret) ∧
      verifyTotp env.hmac (some secret) code now = .ok true ∧ after = changed := by
  cases hsecret : decryptedSecret env user with
  | error _ => simp [hsecret, bind, Except.bind] at h
  | ok secret =>
      simp only [hsecret, bind, Except.bind] at h
      cases hverify : verifyTotp env.hmac secret code now with
      | error _ => simp [hverify] at h
      | ok accepted =>
          cases accepted with
          | false => simp [hverify] at h
          | true =>
              simp only [hverify, ite_true, pure, Except.pure, Except.ok.injEq] at h
              obtain ⟨text, rfl⟩ := exists_of_verifyTotp hverify
              exact ⟨text, rfl, hverify, h.symm⟩

theorem enable_eq_ok {users after : Users Cipher} {userId now : Nat} {code : String}
    (h : enable env users userId code now = .ok after) :
    ∃ user, users.lookup userId = some user ∧ after = users.insert userId { user with totpEnabled := true } := by
  unfold enable at h
  cases hl : (users.lookup userId).filter fun user => user.totpSecretEncrypted.isSome with
  | none => simp [hl] at h
  | some user =>
      simp only [hl] at h
      obtain ⟨_, _, _, rfl⟩ := ok_of_codeChecked env h
      exact ⟨user, (Option.filter_eq_some_iff.mp hl).1, rfl⟩

theorem disable_eq_ok {users after : Users Cipher} {userId now : Nat} {code : String}
    (h : disable env users userId code now = .ok after) :
    ∃ user secret, users.lookup userId = some user ∧ decryptedSecret env user = .ok (some secret) ∧
      verifyTotp env.hmac (some secret) code now = .ok true ∧
      after = users.insert userId { user with totpEnabled := false, totpSecretEncrypted := none } := by
  unfold disable at h
  cases hl : (users.lookup userId).filter fun user => user.totpEnabled with
  | none => simp [hl] at h
  | some user =>
      simp only [hl] at h
      obtain ⟨secret, hsecret, hverify, rfl⟩ := ok_of_codeChecked env h
      exact ⟨user, secret, (Option.filter_eq_some_iff.mp hl).1, hsecret, hverify, rfl⟩

theorem keepsSecondFactor_iff (users : Users Cipher) (call : MfaCall) :
    KeepsSecondFactor env users call ↔ NoSetupWhileEnabled users call := by
  cases call with
  | status _ =>
      refine ⟨fun _ => trivial, fun _ userId user hl henabled => ?_⟩
      exact .inl ⟨user, hl, henabled, rfl⟩
  | login _ _ _ _ _ =>
      refine ⟨fun _ => trivial, fun _ userId user hl henabled => ?_⟩
      exact .inl ⟨user, hl, henabled, rfl⟩
  | beginSetup setupId randomBytes salt =>
      constructor
      · intro h user hl
        by_contra hdisabled
        have henabled : user.totpEnabled = true := by simpa using hdisabled
        have hafter := h setupId user hl henabled
        simp [step, beginSetup, Option.mem_def.mp hl, Presents] at hafter
      · intro h userId user hl henabled
        by_cases hsame : userId = setupId
        · subst hsame
          have hdisabled := h user hl
          rw [henabled] at hdisabled
          simp at hdisabled
        · refine .inl ⟨user, ?_, henabled, rfl⟩
          simp only [step, beginSetup]
          cases users.lookup setupId with
          | none => exact hl
          | some other => exact (AList.lookup_insert_ne hsame).trans hl
  | enable enabledId code now =>
      refine ⟨fun _ => trivial, fun _ userId user hl henabled => .inl ?_⟩
      simp only [step]
      cases hresult : enable env users enabledId code now with
      | error _ => exact ⟨user, hl, henabled, rfl⟩
      | ok after =>
          obtain ⟨found, hfound, rfl⟩ := enable_eq_ok env hresult
          by_cases hsame : userId = enabledId
          · subst hsame
            obtain rfl := Option.some.inj (hl.symm.trans hfound)
            exact ⟨_, AList.lookup_insert _, rfl, rfl⟩
          · exact ⟨user, (AList.lookup_insert_ne hsame).trans hl, henabled, rfl⟩
  | disable disabledId code now =>
      refine ⟨fun _ => trivial, fun _ userId user hl henabled => ?_⟩
      simp only [step]
      cases hresult : disable env users disabledId code now with
      | error _ => exact .inl ⟨user, hl, henabled, rfl⟩
      | ok after =>
          obtain ⟨found, secret, hfound, hsecret, hverify, rfl⟩ := disable_eq_ok env hresult
          by_cases hsame : userId = disabledId
          · subst hsame
            exact .inr ⟨found, secret, hfound, hsecret, hverify⟩
          · exact .inl ⟨user, (AList.lookup_insert_ne hsame).trans hl, henabled, rfl⟩

-- Over a run, the second factor is given up only with a code in exactly the runs
-- that never begin a setup for a user who has it on.
theorem second_factor_kept_iff (users : Users Cipher) (calls : List MfaCall) :
    Runs.AllSteps (step env) (KeepsSecondFactor env) users calls ↔
      Runs.AllSteps (step env) NoSetupWhileEnabled users calls :=
  ⟨Runs.AllSteps.mono fun _ _ => (keepsSecondFactor_iff env _ _).mp,
    Runs.AllSteps.mono fun _ _ => (keepsSecondFactor_iff env _ _).mpr⟩

def plainEnvironment : AuthEnvironment String where
  hmac _ _ := Vector.replicate 20 0
  pgpSymEncrypt text _ _ := text
  pgpSymDecrypt cipher _ := .ok cipher
  compare password hash := password == hash
  credentialsEncryptionKey := "key"
  tenantId := "t1"

def enrolledUser : Users String :=
  (∅ : Users String).insert 1
    { email := "ann@example.com"
      passwordHash := "hash"
      name := "Ann"
      role := "agent"
      totpSecretEncrypted := some "JBSWY3DPEHPK3PXPJBSWY3DPEHPK3PXP"
      totpEnabled := true }

-- One call, and no code: the second factor is off and its secret replaced.
theorem setup_switches_off :
    ¬ Runs.AllSteps (step plainEnvironment) (KeepsSecondFactor plainEnvironment) enrolledUser
      [.beginSetup 1 (Vector.replicate 20 0) 0] := by
  intro h
  have hdisabled := (keepsSecondFactor_iff plainEnvironment _ _).mp h.1
  exact absurd (hdisabled _ (AList.lookup_insert _)) (by decide)

end CloudOps.Platform
