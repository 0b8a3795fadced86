import CloudOps.Platform.Mfa
import CloudOps.ReadCommitted.Rely

namespace CloudOps.Platform

open CloudOps.ReadCommitted

structure PasswordResetToken where
  userId : Nat
  tokenHash : String
  expiresAt : Nat
  usedAt : Option Nat

-- The rows a reset reads and writes, of one tenant.
inductive ResetKey where
  | user (id : Nat)
  | token (id : Nat)
  deriving DecidableEq

inductive ResetRow (Cipher : Type) where
  | user (row : User Cipher)
  | token (row : PasswordResetToken)

variable {Cipher : Type}

def ResetRow.onUser (set : User Cipher → User Cipher) : ResetRow Cipher → ResetRow Cipher
  | user row => user (set row)
  | row => row

def ResetRow.onToken (set : PasswordResetToken → PasswordResetToken) : ResetRow Cipher → ResetRow Cipher
  | token row => token (set row)
  | row => row

def ResetRow.token? : ResetRow Cipher → Option PasswordResetToken
  | token row => some row
  | user _ => none

-- The two hashes: sha256 of a token, bcrypt of a password under a salt.
structure PasswordHashes where
  hashToken : String → String
  hash : String → String → String

structure ResetCall where
  token : String
  newPassword : String
  salt : String

abbrev ResetTable (Cipher : Type) := Table ResetKey (ResetRow Cipher)
abbrev ResetProg (Cipher : Type) := Prog ResetKey (ResetRow Cipher) ServiceError
abbrev ResetWorld (Cipher : Type) := World ResetKey (ResetRow Cipher) Nat ResetCall
abbrev ResetDb (Cipher : Type) := Db ResetKey (ResetRow Cipher) ServiceError Nat ResetCall
abbrev ResetEvent (Cipher : Type) := Event ResetKey (ResetRow Cipher) ResetCall

variable (hashes : PasswordHashes)

-- WHERE token_hash = $1 AND used_at IS NULL AND expires_at > now()
def redeemable (tokenHash : String) (now : Nat) : ResetKey → ResetRow Cipher → Bool
  | .token _, .token row => row.tokenHash == tokenHash && row.usedAt.isNone && decide (now < row.expiresAt)
  | _, _ => false

-- The two UPDATEs, of the user and of the token.
def redeem (call : ResetCall) (now id userId : Nat) : ResetProg Cipher Nat := do
  let _ ← Prog.update (.user userId) (ResetRow.onUser fun row =>
    { row with passwordHash := hashes.hash call.newPassword call.salt })
  let _ ← Prog.update (.token id) (ResetRow.onToken fun row => { row with usedAt := some now })
  return userId

-- The transaction of AuthService.resetPassword.
def resetPassword (call : ResetCall) (now : Nat) : ResetProg Cipher Nat := do
  match (← Prog.query (redeemable (hashes.hashToken call.token) now)).head? with
  | some (.token id, .token row) => redeem hashes call now id row.userId
  | _ => .throw (.unauthorized "Invalid or expired reset token")

def resetService (Cipher : Type) : Service ResetKey (ResetRow Cipher) ServiceError Nat ResetCall where
  body := resetPassword hashes
  conflict _ _ := false

def tokenOf (table : ResetTable Cipher) (id : Nat) : Option PasswordResetToken :=
  (table.lookup (.token id)).bind ResetRow.token?

-- The committed resets that presented a token of this hash.
def redemptions (world : ResetWorld Cipher) (tokenHash : String) :
    List (Returned ResetKey (ResetRow Cipher) Nat ResetCall) :=
  world.returned.filter fun reset => hashes.hashToken reset.call.token = tokenHash

-- No token changes a password twice.
def SingleUse (world : ResetWorld Cipher) : Prop :=
  ∀ token, (redemptions hashes world (hashes.hashToken token)).length ≤ 1

-- A reset about to commit with a token that has been marked used since it read it.
def reusesToken (world : ResetWorld Cipher) (writes : ResetTable Cipher) : Bool :=
  writes.keys.any fun
    | .token id => (tokenOf world.committed id).any fun row => row.usedAt.isSome
    | .user _ => false

def NoReuse : ResetDb Cipher → ResetEvent Cipher → Prop :=
  CommitMeets fun world _ writes _ => reusesToken world writes = false

instance (db : ResetDb Cipher) : DecidablePred (NoReuse db) :=
  inferInstanceAs (DecidablePred (CommitMeets (fun world _ writes _ => reusesToken world writes = false) db))

variable {hashes}

theorem reusesToken_eq_false {world : ResetWorld Cipher} {writes : ResetTable Cipher} :
    reusesToken world writes = false ↔ ∀ id row, .token id ∈ writes →
      tokenOf world.committed id = some row → row.usedAt = none := by
  simp only [reusesToken, List.any_eq_false]
  constructor
  · intro h id row hmem hrow
    have hunused := h (.token id) (AList.mem_keys.mp hmem)
    simpa [hrow] using hunused
  · intro h key hmem
    cases key with
    | user id => exact Bool.false_ne_true
    | token id =>
        cases hrow : tokenOf world.committed id with
        | none => simp [hrow]
        | some row => simpa [hrow] using h id row (AList.mem_keys.mpr hmem) hrow

-- What a reset may take for granted of the others: no token comes or goes, and one
-- that is marked used has been redeemed.
structure KeepsTokens (hashes : PasswordHashes) (before after : ResetWorld Cipher) : Prop where
  token : ∀ id row, tokenOf after.committed id = some row →
    ∃ old, tokenOf before.committed id = some old ∧ row.tokenHash = old.tokenHash ∧
      (old.usedAt = none → row.usedAt = none ∨ redemptions hashes after old.tokenHash ≠ [])
  kept : ∀ id old, tokenOf before.committed id = some old →
    ∃ row, tokenOf after.committed id = some row
  returned : ∀ reset ∈ before.returned, reset ∈ after.returned

-- `apart`: a token is random, so no two rows have its hash.
structure TokensSpent (hashes : PasswordHashes) (world : ResetWorld Cipher) : Prop where
  apart : ∀ id other row otherRow, tokenOf world.committed id = some row →
    tokenOf world.committed other = some otherRow → row.tokenHash = otherRow.tokenHash → id = other
  unspent : ∀ id row, tokenOf world.committed id = some row → row.usedAt = none →
    redemptions hashes world row.tokenHash = []
  single : SingleUse hashes world

-- What a reset has done when it commits: it has marked the token it read, which was
-- unused then.
def Redeems (hashes : PasswordHashes) (call : ResetCall) (now : Nat) (world : ResetWorld Cipher)
    (writes : ResetTable Cipher) : Prop :=
  ∃ id row, tokenOf world.committed id = some row ∧ row.tokenHash = hashes.hashToken call.token ∧
    (row.usedAt = none ∨ redemptions hashes world row.tokenHash ≠ []) ∧
    ∀ other, writes.lookup (.token other) =
      if other = id then some (.token { row with usedAt := some now }) else none

theorem redemptions_mono {before after : ResetWorld Cipher}
    (h : ∀ reset ∈ before.returned, reset ∈ after.returned) {tokenHash : String}
    (hne : redemptions hashes before tokenHash ≠ []) : redemptions hashes after tokenHash ≠ [] := by
  obtain ⟨reset, hmem⟩ := List.exists_mem_of_ne_nil _ hne
  obtain ⟨hreturned, hhash⟩ := List.mem_filter.mp hmem
  exact List.ne_nil_of_mem (List.mem_filter.mpr ⟨h reset hreturned, hhash⟩)

theorem KeepsTokens.tick (world : ResetWorld Cipher) (elapsed : Nat) :
    KeepsTokens hashes world (world.tick elapsed) where
  token _ row h := ⟨row, h, rfl, .inl⟩
  kept _ old h := ⟨old, h⟩
  returned _ h := h

theorem KeepsTokens.trans {a b c : ResetWorld Cipher} (hab : KeepsTokens hashes a b)
    (hbc : KeepsTokens hashes b c) : KeepsTokens hashes a c where
  token id row h := by
    obtain ⟨mid, hmid, hhash, hused⟩ := hbc.token id row h
    obtain ⟨old, hold, hmidHash, hmidUsed⟩ := hab.token id mid hmid
    refine ⟨old, hold, hhash.trans hmidHash, fun hnone => ?_⟩
    rcases hmidUsed hnone with hunused | hredeemed
    · exact (hused hunused).imp_right fun hne => hmidHash ▸ hne
    · exact .inr (redemptions_mono hbc.returned hredeemed)
  kept id old h := by
    obtain ⟨mid, hmid⟩ := hab.kept id old h
    exact hbc.kept id mid hmid
  returned reset h := hbc.returned reset (hab.returned reset h)

theorem mem_redeemable {tokenHash : String} {now : Nat} {table : ResetTable Cipher} {id : Nat}
    {row : PasswordResetToken} (hrow : table.lookup (.token id) = some (.token row))
    (hmatch : redeemable tokenHash now (.token id) (.token row : ResetRow Cipher) = true) :
    tokenOf table id = some row ∧ row.tokenHash = tokenHash ∧ row.usedAt = none := by
  simp only [redeemable, Bool.and_eq_true, beq_iff_eq, Option.isNone_iff_eq_none, decide_eq_true_eq]
    at hmatch
  refine ⟨?_, hmatch.1.1, hmatch.1.2⟩
  rw [tokenOf, hrow]
  rfl

variable {inv : ResetWorld Cipher → Prop}

-- The second UPDATE, once the token has been read as unused.
theorem markUsed_redeems {call : ResetCall} {now id userId : Nat} {world : ResetWorld Cipher}
    {writes : ResetTable Cipher} (hwrites : ∀ other, writes.lookup (.token other) = none)
    (hread : ∃ row, tokenOf world.committed id = some row ∧ row.tokenHash = hashes.hashToken call.token ∧
      (row.usedAt = none ∨ redemptions hashes world row.tokenHash ≠ [])) :
    (Prog.write (.token id) (Option.map (ResetRow.onToken fun row => { row with usedAt := some now }))
      fun _ => .ret userId : ResetProg Cipher Nat).wp (KeepsTokens hashes) inv
        (fun world writes _ => Redeems hashes call now world writes) writes world := by
  intro after hafter
  obtain ⟨row, hrow, hhash, hunused⟩ := hread
  obtain ⟨current, hcurrent⟩ := hafter.1.kept id row hrow
  obtain ⟨old, hold, hsame, hused⟩ := hafter.1.token id current hcurrent
  obtain rfl := Option.some.inj (hrow.symm.trans hold)
  have hcommitted : after.committed.lookup (.token id) = some (.token current) := by
    obtain ⟨found, hfound, htoken⟩ := Option.bind_eq_some_iff.mp hcurrent
    cases found with
    | user other => cases htoken
    | token other =>
        obtain rfl := Option.some.inj htoken
        exact hfound
  have hseen : (writes ∪ after.committed).lookup (.token id) = some (.token current) := by
    rw [Table.lookup_union, hwrites, Option.none_or, hcommitted]
  have hstill : current.usedAt = none ∨ redemptions hashes after current.tokenHash ≠ [] := by
    rw [hsame]
    rcases hunused with hnone | hredeemed
    · exact hused hnone
    · exact .inr (redemptions_mono hafter.1.returned hredeemed)
  rw [hseen]
  refine ⟨nofun, ?_⟩
  rintro _ ⟨⟩ later hlater
  have hlocked : tokenOf later.committed id = some current := by
    rw [tokenOf, hlater.2.2 (.token id) ((AList.mem_insert _).mpr (.inl rfl)), hcommitted]
    rfl
  refine ⟨id, current, hlocked, hsame.trans hhash, ?_, fun other => ?_⟩
  · exact hstill.imp_right (redemptions_mono hlater.1.returned)
  · rw [Table.lookup_insert_eq, hwrites]
    simp [ResetRow.onToken]

theorem resetPassword_redeems (call : ResetCall) (now : Nat) (world : ResetWorld Cipher) :
    (resetPassword hashes call now : ResetProg Cipher Nat).wp (KeepsTokens hashes) inv
      (fun world writes _ => Redeems hashes call now world writes) ∅ world := by
  rw [resetPassword, Prog.query_bind]
  intro after _ rows hrows
  dsimp only
  cases hhead : rows.head? with
  | none => trivial
  | some found =>
      have hmem : found ∈ rows := List.mem_of_mem_head? hhead
      obtain ⟨key, row⟩ := found
      obtain ⟨hstored, hmatch⟩ := List.mem_filter.mp (hrows.mem_iff.mp hmem)
      rw [AList.empty_union, Table.mem_rows] at hstored
      cases key with
      | user id => trivial
      | token id =>
          cases row with
          | user row => trivial
          | token row =>
              obtain ⟨htoken, hhash, hnone⟩ := mem_redeemable hstored hmatch
              have hread : ∀ later, KeepsTokens hashes after later → ∃ row,
                  tokenOf later.committed id = some row ∧ row.tokenHash = hashes.hashToken call.token ∧
                  (row.usedAt = none ∨ redemptions hashes later row.tokenHash ≠ []) := by
                intro later hlater
                obtain ⟨current, hcurrent⟩ := hlater.kept id row htoken
                obtain ⟨old, hold, hsame, hused⟩ := hlater.token id current hcurrent
                obtain rfl := Option.some.inj (htoken.symm.trans hold)
                exact ⟨current, hcurrent, hsame.trans hhash, hsame ▸ hused hnone⟩
              simp only [redeem, Prog.update_bind, Prog.pure_eq]
              intro later hlater
              refine ⟨fun _ => ?_, fun user _ => ?_⟩
              · exact markUsed_redeems (fun other => AList.lookup_empty _) (hread later hlater.1)
              · refine markUsed_redeems (fun other => ?_) (hread later hlater.1)
                rw [Table.lookup_insert_eq, if_neg (by simp), AList.lookup_empty]

theorem redemptions_publish (world : ResetWorld Cipher) (call : ResetCall) (begunOn : ResetTable Cipher)
    (startedAt : Nat) (writes : ResetTable Cipher) (userId : Nat) (tokenHash : String) :
    redemptions hashes (world.publish call begunOn startedAt writes userId) tokenHash =
      redemptions hashes world tokenHash ++
        if hashes.hashToken call.token = tokenHash then [⟨call, begunOn, startedAt, userId, world.clock⟩]
        else [] := by
  unfold redemptions World.publish
  rw [List.filter_append]
  by_cases h : hashes.hashToken call.token = tokenHash
  · simp [h]
  · simp [h]

section Commit

variable {world : ResetWorld Cipher} {writes : ResetTable Cipher} {call : ResetCall} {startedAt : Nat}

-- The tokens after a reset: the one it presented is marked, the others are as before.
theorem tokenOf_redeemed (committed : ResetTable Cipher) {id : Nat} {row : PasswordResetToken}
    (hwrites : ∀ other, writes.lookup (.token other) =
      if other = id then some (.token { row with usedAt := some startedAt }) else none) (other : Nat) :
    tokenOf (writes ∪ committed) other =
      if other = id then some { row with usedAt := some startedAt }
      else tokenOf committed other := by
  rw [tokenOf, Table.lookup_union, hwrites]
  split
  · rfl
  · rw [Option.none_or]
    rfl

theorem Redeems.keepsTokens (h : Redeems hashes call startedAt world writes) (begunOn : ResetTable Cipher)
    (userId : Nat) :
    KeepsTokens hashes world (world.publish call begunOn startedAt writes userId) := by
  obtain ⟨id, row, hrow, hhash, -, hwrites⟩ := h
  have hafter := tokenOf_redeemed world.committed hwrites
  have hredeemed : redemptions hashes (world.publish call begunOn startedAt writes userId)
      row.tokenHash ≠ [] := by
    rw [redemptions_publish, if_pos hhash.symm]
    simp
  constructor
  · intro other found hfound
    rw [World.publish, hafter] at hfound
    split at hfound
    · rename_i hsame
      subst hsame
      obtain rfl := Option.some.inj hfound
      exact ⟨row, hrow, rfl, fun _ => .inr hredeemed⟩
    · exact ⟨found, hfound, rfl, .inl⟩
  · intro other old hold
    rw [World.publish, hafter]
    split
    · exact ⟨_, rfl⟩
    · exact ⟨old, hold⟩
  · exact fun reset hmem => List.mem_append_left _ hmem

theorem TokensSpent.publish (h : TokensSpent hashes world) (hredeems : Redeems hashes call startedAt world writes)
    (hcondition : reusesToken world writes = false) (begunOn : ResetTable Cipher) (userId : Nat) :
    TokensSpent hashes (world.publish call begunOn startedAt writes userId) := by
  obtain ⟨id, row, hrow, hhash, -, hwrites⟩ := hredeems
  have hafter := tokenOf_redeemed world.committed hwrites
  have hunused : row.usedAt = none := by
    refine reusesToken_eq_false.mp hcondition id row ?_ hrow
    exact Table.mem_of_lookup ((hwrites id).trans (if_pos rfl))
  have hfirst : redemptions hashes world row.tokenHash = [] := h.unspent id row hrow hunused
  -- a token of the world before, under which a token of the world after stands
  have hbefore : ∀ other found, tokenOf (writes ∪ world.committed) other = some found →
      ∃ old, tokenOf world.committed other = some old ∧ found.tokenHash = old.tokenHash := by
    intro other found hfound
    have hredeems : Redeems hashes call startedAt world writes := ⟨id, row, hrow, hhash, .inl hunused, hwrites⟩
    obtain ⟨old, hold, hsame, -⟩ := (hredeems.keepsTokens begunOn userId).token other found hfound
    exact ⟨old, hold, hsame⟩
  constructor
  · intro first second firstRow secondRow hf hs hsame
    obtain ⟨oldFirst, hof, hfh⟩ := hbefore first firstRow hf
    obtain ⟨oldSecond, hos, hsh⟩ := hbefore second secondRow hs
    exact h.apart first second oldFirst oldSecond hof hos (hfh.symm.trans (hsame.trans hsh))
  · intro other found hfound hnone
    rw [World.publish, hafter] at hfound
    split at hfound
    · obtain rfl := Option.some.inj hfound
      cases hnone
    · rename_i hother
      have hne : hashes.hashToken call.token ≠ found.tokenHash := fun hsame =>
        hother (h.apart other id found row hfound hrow (hsame.symm.trans hhash.symm))
      rw [redemptions_publish, if_neg hne, List.append_nil]
      exact h.unspent other found hfound hnone
  · intro token
    rw [redemptions_publish]
    split
    · rename_i hsame
      rw [← hsame, ← hhash, hfirst]
      exact Nat.le_refl 1
    · rw [List.append_nil]
      exact h.single token

end Commit

def passwordResets (hashes : PasswordHashes) (Cipher : Type) : RelyGuarantee (resetService hashes Cipher) where
  rely := KeepsTokens hashes
  inv := TokensSpent hashes
  post call _ startedAt world writes _ := Redeems hashes call startedAt world writes
  condition world _ writes _ := reusesToken world writes = false
  refl world := KeepsTokens.tick world 0
  trans _ _ _ := KeepsTokens.trans
  tick world elapsed h := ⟨⟨h.apart, h.unspent, h.single⟩, KeepsTokens.tick world elapsed⟩
  body call world _ := resetPassword_redeems call world.clock world
  commit _ begunOn _ _ _ userId h hredeems hcondition :=
    ⟨h.publish hredeems hcondition begunOn userId, hredeems.keepsTokens begunOn userId⟩

-- A token changes a password at most once in exactly the runs in which no reset
-- commits behind another one that has used its token.
theorem single_use_iff (hashes : PasswordHashes) (committed : ResetTable Cipher) (clock : Nat)
    (hapart : ∀ id other row otherRow, tokenOf committed id = some row →
      tokenOf committed other = some otherRow → row.tokenHash = otherRow.tokenHash → id = other)
    (events : List (ResetEvent Cipher)) :
    Runs.Always (Db.step (resetService hashes Cipher)) (fun db => SingleUse hashes db.world)
      (Db.start (World.start committed clock)) events ↔
    Runs.AllSteps (Db.step (resetService hashes Cipher)) NoReuse
      (Db.start (World.start committed clock)) events := by
  have hinv : TokensSpent hashes (World.start committed clock) := by
    refine ⟨hapart, fun _ _ _ _ => rfl, fun token => ?_⟩
    exact Nat.zero_le 1
  have hholds : (passwordResets hashes Cipher).Holds (Db.start (World.start committed clock)) := .start hinv
  refine Runs.always_iff_allSteps events hholds (fun _ h => h.inv.single) (fun _ _ h hc => (h.step hc).1) ?_
  intro db event h
  refine RelyGuarantee.commitMeets_of_step (SingleUse hashes) h (fun call begunOn startedAt writes userId
    hredeems hafter => reusesToken_eq_false.mpr fun id row hmem hrow => ?_) event
  obtain ⟨own, ownRow, hown, hhash, hunused, hwrites⟩ := hredeems
  obtain rfl : id = own := by
    by_contra hne
    have hnone := hwrites id
    rw [if_neg hne] at hnone
    exact AList.lookup_eq_none.mp hnone hmem
  obtain rfl := Option.some.inj (hrow.symm.trans hown)
  refine hunused.resolve_right fun hredeemed => ?_
  have hlength := hafter call.token
  rw [redemptions_publish, if_pos rfl, ← hhash, List.length_append, List.length_singleton] at hlength
  have hpos := List.length_pos_iff.mpr hredeemed
  omega

def plainHashes : PasswordHashes where
  hashToken token := token
  hash password salt := password ++ salt

-- A user, and the link that has been mailed to them.
def mailedToken : ResetTable Unit :=
  ((∅ : ResetTable Unit).insert (.user 1) (.user
      { email := "ann@example.com"
        passwordHash := "old"
        name := "Ann"
        role := "agent"
        totpSecretEncrypted := none
        totpEnabled := false })).insert
    (.token 5) (.token { userId := 1, tokenHash := "secret", expiresAt := 3600000, usedAt := none })

def resetTo (password : String) : ResetCall := ⟨"secret", password, ""⟩

def resetStatement (tid : Nat) : ResetEvent Unit := .exec tid (.stored _) (.token 0)

-- The second reset begins once the first is through, and finds no token.
def resetThenReset : List (ResetEvent Unit) :=
  [.begin 1 (resetTo "first"), resetStatement 1, resetStatement 1, resetStatement 1, .commit 1,
    .begin 2 (resetTo "second"), resetStatement 2, .commit 2, .rollback 2]

theorem mailedToken_apart (id other : Nat) (row otherRow : PasswordResetToken)
    (hrow : tokenOf mailedToken id = some row) (hother : tokenOf mailedToken other = some otherRow)
    (_ : row.tokenHash = otherRow.tokenHash) : id = other := by
  have hfive : ∀ id row, tokenOf mailedToken id = some row → id = 5 := by
    intro id row h
    by_contra hne
    rw [tokenOf, mailedToken, Table.lookup_insert_eq, if_neg (by simpa using hne),
      Table.lookup_insert_eq, if_neg (by simp), AList.lookup_empty] at h
    cases h
  rw [hfive id row hrow, hfive other otherRow hother]

theorem resetThenReset_single_use :
    Runs.Always (Db.step (resetService plainHashes Unit)) (fun db => SingleUse plainHashes db.world)
      (Db.start (World.start mailedToken 0)) resetThenReset :=
  (single_use_iff plainHashes mailedToken 0 mailedToken_apart _).mpr (by decide +kernel)

-- Both resets read the token before either has marked it. The second one's UPDATE of
-- the user waits for the first, and then puts its own password over it.
def resetWithinReset : List (ResetEvent Unit) :=
  [.begin 1 (resetTo "first"), .begin 2 (resetTo "second"), resetStatement 1, resetStatement 2,
    resetStatement 1, resetStatement 1, .commit 1, resetStatement 2, resetStatement 2, .commit 2]

theorem resetWithinReset_both_commit :
    ¬ Runs.Always (Db.step (resetService plainHashes Unit)) (fun db => SingleUse plainHashes db.world)
      (Db.start (World.start mailedToken 0)) resetWithinReset := by
  intro h
  have hsingle := h.last "secret"
  have htwo : (redemptions plainHashes (Runs.run (Db.step (resetService plainHashes Unit))
      (Db.start (World.start mailedToken 0)) resetWithinReset).world "secret").length = 2 := by
    decide +kernel
  have hle : 2 ≤ 1 := htwo ▸ hsingle
  omega

end CloudOps.Platform
