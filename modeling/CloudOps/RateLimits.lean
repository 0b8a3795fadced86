import CloudOps.Monitoring.IngestKeys
import CloudOps.Platform.SessionRevocation
import CloudOps.Redis.Counters

namespace CloudOps

open CloudOps.Redis CloudOps.Platform CloudOps.Monitoring

inductive RateCall where
  | registerLoginAttempt (key : String)
  | clearLoginAttempts (key : String)
  | enforceIngestRate (key : String)

def rateLimits (limits : IngestLimits) : RateCall → Prog HttpException (Option ThrottleResult)
  | .registerLoginAttempt key => some <$> registerLoginAttempt key
  | .clearLoginAttempts key => (fun _ => none) <$> clearLoginAttempts key
  | .enforceIngestRate key => (fun _ => none) <$> enforceIngestRate limits key

variable {ε : Type}

theorem setsWindow_ttl (key : String) : (Prog.ttl key : Prog ε Int).SetsWindow :=
  Prog.setsWindow_run fun _ => rfl

theorem registerLoginAttempt_setsWindow (key : String) :
    (registerLoginAttempt key : Prog ε ThrottleResult).SetsWindow ∧
      (registerLoginAttempt key : Prog ε ThrottleResult).expiring = none := by
  refine (Prog.setsWindow_countInWindow _ _).bind fun count => ?_
  split
  · refine (setsWindow_ttl _).bind fun ttl => ?_
    exact ⟨trivial, rfl⟩
  · exact ⟨trivial, rfl⟩

theorem clearLoginAttempts_setsWindow (key : String) :
    (clearLoginAttempts key : Prog ε Unit).SetsWindow ∧
      (clearLoginAttempts key : Prog ε Unit).expiring = none := by
  refine Prog.SetsWindow.bind (Prog.setsWindow_run fun _ => rfl) fun deleted => ?_
  exact ⟨trivial, rfl⟩

theorem retryAfter_setsWindow (redisKey : String) (window : Nat) :
    (retryAfter redisKey window).SetsWindow ∧ (retryAfter redisKey window).expiring = none := by
  refine Prog.SetsWindow.tryCatch ((setsWindow_ttl _).bind fun ttl => ?_).1 fun _ => ?_
  · exact ⟨trivial, rfl⟩
  · exact ⟨trivial, rfl⟩

theorem enforceIngestRate_setsWindow (limits : IngestLimits) (key : String) :
    (enforceIngestRate limits key).SetsWindow ∧ (enforceIngestRate limits key).expiring = none := by
  have hcount := Prog.setsWindow_countInWindow (ε := HttpException) ("ingest:rate:" ++ key)
    limits.windowSeconds
  refine Prog.SetsWindow.bind (Prog.SetsWindow.tryCatch (hcount.map some).1 fun _ => ?_).1 fun counted => ?_
  · exact ⟨trivial, rfl⟩
  · cases counted with
    | none => exact ⟨trivial, rfl⟩
    | some count =>
        dsimp only
        split
        · obtain ⟨hretry, hnone⟩ := retryAfter_setsWindow ("ingest:rate:" ++ key) limits.windowSeconds
          constructor
          · refine (hretry.bind ?_).1
            exact fun _ => ⟨trivial, rfl⟩
          · refine (hretry.bind ?_).2.trans hnone
            exact fun _ => ⟨trivial, rfl⟩
        · exact ⟨trivial, rfl⟩

theorem rateLimits_setsWindow (limits : IngestLimits) (call : RateCall) :
    (rateLimits limits call).SetsWindow ∧ (rateLimits limits call).expiring = none := by
  cases call with
  | registerLoginAttempt key =>
      obtain ⟨hsets, hnone⟩ := registerLoginAttempt_setsWindow (ε := HttpException) key
      exact ⟨(hsets.map _).1, (hsets.map _).2.trans hnone⟩
  | clearLoginAttempts key =>
      obtain ⟨hsets, hnone⟩ := clearLoginAttempts_setsWindow (ε := HttpException) key
      exact ⟨(hsets.map _).1, (hsets.map _).2.trans hnone⟩
  | enforceIngestRate key =>
      obtain ⟨hsets, hnone⟩ := enforceIngestRate_setsWindow limits key
      exact ⟨(hsets.map _).1, (hsets.map _).2.trans hnone⟩

-- Every key has a time to live whenever no request is in flight in exactly the runs in
-- which each key that a step strands is deleted before the requests in flight are
-- through.
theorem counters_expire_iff (limits : IngestLimits) (now : Nat) (events : List (Event RateCall)) :
    Runs.Always (Db.step (rateLimits limits)) Db.AllExpire (Db.start now) events ↔
      Db.StrandedFreed (rateLimits limits) (Db.start now) events :=
  Db.allExpire_always_iff (rateLimits_setsWindow limits) now events

-- The process dies between INCR and EXPIRE.
def diesAfterIncr : List (Event RateCall) :=
  [.start 1 (.registerLoginAttempt "t1:ann@example.com"), .exec 1 .answered, .crash 1]

theorem diesAfterIncr_stays :
    ¬ Runs.Always (Db.step (rateLimits ⟨300, 60⟩)) Db.AllExpire (Db.start 0) diesAfterIncr := by
  intro h
  have hexpires := h.last (by decide +kernel) "auth:throttle:t1:ann@example.com" ⟨1, none⟩
    (by decide +kernel)
  cases hexpires

end CloudOps
