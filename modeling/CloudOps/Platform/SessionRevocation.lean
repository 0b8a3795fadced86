import CloudOps.Platform.Mfa
import CloudOps.Redis.Requests

namespace CloudOps.Platform

open CloudOps.Redis

variable {ε : Type}

def MAX_LOGIN_ATTEMPTS : Nat := 5

def LOGIN_WINDOW_SECONDS : Nat := 15 * 60

def registerLoginAttempt (key : String) : Prog ε ThrottleResult := do
  let redisKey := "auth:throttle:" ++ key
  let count ← Prog.countInWindow redisKey LOGIN_WINDOW_SECONDS
  if MAX_LOGIN_ATTEMPTS < count then
    let ttl ← Prog.ttl redisKey
    return ⟨false, if 0 < ttl then ttl.toNat else LOGIN_WINDOW_SECONDS⟩
  return ⟨true, 0⟩

def clearLoginAttempts (key : String) : Prog ε Unit := do
  let _ ← Prog.del ("auth:throttle:" ++ key)

def REVOKE_TTL_SECONDS : Nat := 60 * 60 * 24 * 2

def revokeKey (userId : String) : String := "auth:revoke:" ++ userId

def revokeUserSessions (userId : String) : Prog ε Unit := do
  let now ← Prog.dateNow
  Prog.setEx (revokeKey userId) now REVOKE_TTL_SECONDS

-- `!tokenIatSeconds`: an absent issue time, or 0.
def isSessionRevoked (userId : String) (tokenIatSeconds : Option Nat) : Prog ε Bool :=
  match tokenIatSeconds with
  | none | some 0 => return false
  | some iat => do
      match ← Prog.get (revokeKey userId) with
      | none => return false
      | some raw => return iat * 1000 < raw

end CloudOps.Platform

namespace CloudOps.Platform

open CloudOps.Redis

inductive TokenKind where
  | agent
  | contact
  deriving DecidableEq

structure AppJwtClaims where
  sub : String
  tenantId : String
  email : String
  kind : TokenKind
  role : Option String
  iat : Option Nat

-- JWT_SECRET and JWT_EXPIRES_IN.
structure JwtEnvironment where
  jwtSecret : Option String
  jwtExpiresIn : Option String

def JwtEnvironment.secret (env : JwtEnvironment) : String := env.jwtSecret.getD "dev-jwt-secret-change-me"

-- The library that signs and verifies: claims, secret and expiry at a time give a
-- token; a token that does not verify gives nothing.
structure JsonWebToken (Token : Type) where
  sign : AppJwtClaims → String → String → Nat → Token
  verify : Token → String → Nat → Option AppJwtClaims

variable {Token : Type}

-- It stamps a token with the whole second it is signed in, where the claims bring no
-- time of their own.
def JsonWebToken.StampsSeconds (jwt : JsonWebToken Token) : Prop :=
  ∀ claims secret expiresIn issued now found, claims.iat = none →
    jwt.verify (jwt.sign claims secret expiresIn issued) secret now = some found →
    found = { claims with iat := some (issued / 1000) }

variable (jwt : JsonWebToken Token) (env : JwtEnvironment)

def signJwt (claims : AppJwtClaims) (now : Nat) : Token :=
  jwt.sign claims env.secret (env.jwtExpiresIn.getD "12h") now

def verifyJwt (token : Token) (now : Nat) : Option AppJwtClaims := jwt.verify token env.secret now

structure SessionUser where
  id : String
  email : String
  role : String

-- The claims AuthService.login signs.
def sessionClaims (tenantId : String) (user : SessionUser) : AppJwtClaims where
  sub := user.id
  tenantId := tenantId
  email := user.email
  role := some user.role
  kind := .agent
  iat := none

-- What isSessionRevoked answers for the claims of a token at a time.
def revokedAt (store : Store) (claims : AppJwtClaims) (now : Nat) : Except (Failure ServiceError) Bool :=
  ((isSessionRevoked claims.sub claims.iat).alone now store).1

-- The store once a revocation has been recorded, and the commands of other keys since.
def afterRevocation (store : Store) (userId : String) (revoked : Nat) (others : List (Nat × Command)) : Store :=
  Command.applyAll ((revokeUserSessions userId : Prog ServiceError Unit).alone revoked store).2 others

-- The time the marker lapses.
def markerEnd (revoked : Nat) : Nat := revoked + REVOKE_TTL_SECONDS * 1000

theorem lookup_afterRevocation {userId : String} {others : List (Nat × Command)}
    (hothers : ∀ timed ∈ others, timed.2.key ≠ revokeKey userId) (store : Store) (revoked : Nat) :
    (afterRevocation store userId revoked others).lookup (revokeKey userId) =
      some ⟨revoked, some (markerEnd revoked)⟩ := by
  rw [afterRevocation, Command.lookup_applyAll_of_ne hothers]
  exact AList.lookup_insert _

theorem revokedAt_afterRevocation (claims : AppJwtClaims) {others : List (Nat × Command)}
    (hothers : ∀ timed ∈ others, timed.2.key ≠ revokeKey claims.sub) (store : Store) (revoked now iat : Nat)
    (hiat : claims.iat = some iat) :
    revokedAt (afterRevocation store claims.sub revoked others) claims now =
      .ok (decide (iat ≠ 0 ∧ now < markerEnd revoked ∧ iat * 1000 < revoked)) := by
  rw [revokedAt, hiat]
  cases iat with
  | zero => simp [isSessionRevoked, Prog.alone]
  | succ iat =>
      simp only [isSessionRevoked, Prog.get, Prog.run, Prog.call_bind, Prog.ret_bind, Prog.alone,
        Command.apply]
      rw [Store.map_value_get? (lookup_afterRevocation hothers store revoked)]
      by_cases hlive : now < markerEnd revoked
      · simp [hlive, Prog.alone]
      · simp [hlive, Prog.alone]

-- A token of before a revocation is revoked while the marker stands and one of after it
-- is not, in exactly these cases: no token of before is from the first second of all
-- time, and no token of after is from the second the revocation is in, unless that
-- second begins with it.
theorem revocation_exact_iff (hstamps : jwt.StampsSeconds) (tenantId : String) (user : SessionUser)
    (issued revoked now : Nat) (store : Store) (others : List (Nat × Command))
    (hothers : ∀ timed ∈ others, timed.2.key ≠ revokeKey user.id) (claims : AppJwtClaims)
    (hclaims : verifyJwt jwt env (signJwt jwt env (sessionClaims tenantId user) issued) now = some claims) :
    ((issued < revoked → now < markerEnd revoked →
        revokedAt (afterRevocation store user.id revoked others) claims now = .ok true) ∧
      (revoked < issued →
        revokedAt (afterRevocation store user.id revoked others) claims now = .ok false)) ↔
    (now < markerEnd revoked →
      (issued < revoked → 1000 ≤ issued) ∧
      (revoked < issued → issued < 1000 ∨ revoked ≤ issued / 1000 * 1000)) := by
  obtain rfl := hstamps _ _ _ _ _ _ rfl hclaims
  have hrevoked := revokedAt_afterRevocation
    { sessionClaims tenantId user with iat := some (issued / 1000) } hothers store revoked now
    (issued / 1000) rfl
  have hstart : issued / 1000 * 1000 ≤ issued := Nat.div_mul_le_self issued 1000
  rw [show user.id = (sessionClaims tenantId user).sub from rfl, hrevoked]
  simp only [Except.ok.injEq, decide_eq_true_eq, decide_eq_false_iff_not, ne_eq, not_and, not_lt]
  generalize markerEnd revoked = lapse
  constructor
  · rintro ⟨hbefore, hafter⟩ hlive
    refine ⟨fun hlt => ?_, fun hlt => ?_⟩
    · have hsecond := (hbefore hlt hlive).1
      omega
    · by_cases hzero : issued / 1000 = 0
      · left
        omega
      · exact .inr (hafter hlt hzero hlive)
  · intro h
    refine ⟨fun hlt hlive => ⟨?_, hlive, ?_⟩, fun hlt hsecond hlive => ?_⟩
    · have hthousand := (h hlive).1 hlt
      omega
    · omega
    · rcases (h hlive).2 hlt with hfirst | hwhole
      · omega
      · exact hwhole

-- Tokens as they are, with their secret and the second they expire in.
def plainJwt : JsonWebToken (String × AppJwtClaims × Nat) where
  sign claims secret _ now :=
    (secret, { claims with iat := some (claims.iat.getD (now / 1000)) }, now / 1000 + 12 * 60 * 60)
  verify token secret now := if token.1 = secret ∧ now / 1000 < token.2.2 then some token.2.1 else none

theorem plainJwt_stamps : plainJwt.StampsSeconds := by
  intro claims secret expiresIn issued now found hnone hfound
  simp only [plainJwt, hnone, Option.getD_none] at hfound
  split at hfound
  · exact (Option.some.inj hfound).symm
  · cases hfound

def defaultEnvironment : JwtEnvironment := ⟨none, none⟩

def ann : SessionUser := ⟨"u1", "ann@example.com", "agent"⟩

def annClaims (iat : Nat) : AppJwtClaims := { sessionClaims "t1" ann with iat := some iat }

-- The login comes in the second after the one of the reset.
theorem nextSecond_login_honoured :
    revokedAt (afterRevocation ∅ "u1" 1500 []) (annClaims 2) 3000 = .ok false := by
  have hexact := revocation_exact_iff plainJwt defaultEnvironment plainJwt_stamps "t1" ann 2500 1500 3000 ∅ []
    (by simp) (annClaims 2) rfl
  exact (hexact.mpr fun _ => ⟨by decide, by decide⟩).2 (by decide)

-- The reset is at 1.5 s and the login at 1.8 s.
theorem sameSecond_login_revoked :
    ¬ (∀ issued revoked now claims,
      verifyJwt plainJwt defaultEnvironment (signJwt plainJwt defaultEnvironment (sessionClaims "t1" ann) issued)
        now = some claims →
      revoked < issued → revokedAt (afterRevocation ∅ "u1" revoked []) claims now = .ok false) := by
  intro h
  have hvalid := h 1800 1500 1800 (annClaims 1) rfl (by decide)
  have hrevoked := revokedAt_afterRevocation (annClaims 1) (List.forall_mem_nil _) ∅ 1500 1800 1 rfl
  have hsame : (.ok false : Except (Failure ServiceError) Bool) = .ok true :=
    hvalid.symm.trans (hrevoked.trans (congrArg Except.ok (by decide)))
  cases hsame

end CloudOps.Platform
