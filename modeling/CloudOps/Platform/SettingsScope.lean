import CloudOps.Platform.TenantContext
import CloudOps.Pool.Safety

namespace CloudOps.Platform.TenantContext

open CloudOps.Pool

variable {Rows R : Type}

-- Neither setting has a value: it is unset, or empty.
def Unset (settings : Settings Setting) : Prop :=
  (settings .currentTenant).getD "" = "" ∧ (settings .publicStatusRead).getD "" = ""

def ScopedTo (tenantId : String) (settings : Settings Setting) : Prop :=
  settings .currentTenant = some tenantId ∧ (settings .publicStatusRead).getD "" = ""

-- Every statement a callback has issued ran with its call's tenant and without the public
-- flag, and the connections in the pool have neither.
def NoLeak (pool : PoolState Rows R) : Prop :=
  (∀ executed ∈ pool.log, ScopedTo executed.tenantId executed.settings) ∧
    ∀ session ∈ pool.idle, Unset session.inEffect

instance (settings : Settings Setting) : Decidable (Unset settings) := inferInstanceAs (Decidable (_ = _ ∧ _ = _))

instance (tenantId : String) (settings : Settings Setting) : Decidable (ScopedTo tenantId settings) :=
  inferInstanceAs (Decidable (_ = _ ∧ _ = _))

instance : DecidablePred (NoLeak : PoolState Rows R → Prop) := fun pool =>
  inferInstanceAs (Decidable ((∀ executed ∈ pool.log, ScopedTo executed.tenantId executed.settings) ∧
    ∀ session ∈ pool.idle, Unset session.inEffect))

-- The statement neither ends the transaction nor sets one of the two settings.
def Keeps : Statement Setting → Prop
  | .commit | .rollback | .setConfig .currentTenant .. | .setConfig .publicStatusRead .. => False
  | .plain _ | .setConfig (.other _) .. | .startTransaction | .savepoint _ | .rollbackTo _ |
    .releaseSavepoint _ => True

def Work.Keeps : Work Rows R → Prop
  | done _ => True
  | query statement next => TenantContext.Keeps statement ∧ ∀ answer, (next answer).Keeps

def Call.Keeps : Call Rows R → Prop
  | withTenantContext _ work => work.Keeps
  | getPublicStatus _ components => ∀ page, (components page).Keeps

def CallsKeep : PoolEvent Rows R → Prop
  | .start _ call => call.Keeps
  | .turn .. | .discard _ => True

-- A session no one holds is in no transaction, and has neither setting.
def IsIdle (session : Session Setting) : Prop := session.block = none ∧ Unset session.settings

def spec : Spec (Session Setting) Executed where
  idle := IsIdle
  observed executed := ScopedTo executed.tenantId executed.settings

-- In a transaction both of whose ends leave neither setting,
def InBlock (session : Session Setting) : Prop :=
  Unset session.settings ∧ ∃ block, session.block = some block ∧ Unset block.point.atCommit

-- in one that has just begun,
def Started (session : Session Setting) : Prop :=
  Unset session.settings ∧ session.block = some (.begin session.settings)

-- and in one that has the tenant, at each of its savepoints too.
structure Scoped (tenantId : String) (block : TransactionBlock Setting) : Prop where
  atCommit : Unset block.point.atCommit
  inEffect : block.aborted = false ∨ block.savepoints ≠ [] → ScopedTo tenantId block.point.inEffect
  savepoints : ∀ savepoint ∈ block.savepoints,
    ScopedTo tenantId savepoint.2.inEffect ∧ Unset savepoint.2.atCommit

def Working (tenantId : String) (session : Session Setting) : Prop :=
  Unset session.settings ∧ ∃ block, session.block = some block ∧ Scoped tenantId block

-- A connection in hand, unless it is lost.
def Has (property : Session Setting → Prop) : Held (Session Setting) → Prop
  | .nothing => False
  | .lost => True
  | .holding session => property session

section Session

variable {tenantId : String} {session : Session Setting} {settings before : Settings Setting}
  {block : TransactionBlock Setting}

theorem Unset.revert (h : Unset before) (settings : Settings Setting) : Unset (before.revert settings) := by
  have hempty : ∀ first second : Option String, first.getD "" = "" →
      (first.or (second.map fun _ => "")).getD "" = "" := by
    intro first second hfirst
    cases first <;> cases second <;> first | rfl | exact hfirst
  exact ⟨hempty _ _ h.1, hempty _ _ h.2⟩

theorem ScopedTo.revert (h : ScopedTo tenantId before) (settings : Settings Setting) :
    ScopedTo tenantId (before.revert settings) := by
  refine ⟨?_, ?_⟩
  · rw [Settings.revert, h.1, Option.some_or]
  · unfold Settings.revert
    have hpublic := h.2
    cases hbefore : before .publicStatusRead with
    | none => cases settings .publicStatusRead <;> rfl
    | some value =>
        rw [hbefore] at hpublic
        exact hpublic

theorem isIdle_ended (h : Unset settings) (block : TransactionBlock Setting) :
    IsIdle (block.ended settings) := ⟨rfl, h.revert _⟩

theorem Working.inBlock (h : Working tenantId session) : InBlock session := by
  obtain ⟨hsettings, block, hblock, hscoped⟩ := h
  exact ⟨hsettings, block, hblock, hscoped.atCommit⟩

theorem Started.inBlock (h : Started session) : InBlock session := ⟨h.1, _, h.2, h.1⟩

-- A statement of an open block, that fails or is one of those that keep it.
theorem Working.failed (h : Working tenantId session) {statement : Statement Setting} (hkeeps : Keeps statement) :
    Working tenantId (session.failed statement) := by
  obtain ⟨hsettings, block, hblock, hscoped⟩ := h
  unfold Session.failed
  rw [hblock]
  cases statement with
  | commit => cases hkeeps
  | rollback => cases hkeeps
  | plain | setConfig | startTransaction | savepoint | rollbackTo | releaseSavepoint =>
      refine ⟨hsettings, _, rfl, hscoped.atCommit, fun hback => ?_, hscoped.savepoints⟩
      rcases hback with hrunning | hsavepoints
      · cases hrunning
      · unfold TransactionBlock.abort at hsavepoints ⊢
        obtain ⟨savepoint, rest, hcons⟩ := List.exists_cons_of_ne_nil hsavepoints
        dsimp only at hcons ⊢
        rw [hcons]
        have hfirst := hscoped.savepoints savepoint (hcons ▸ List.mem_cons_self)
        exact hfirst.1.revert _

theorem Scoped.downTo (h : Scoped tenantId block) (name : String) : ∀ savepoint ∈ block.downTo name,
    ScopedTo tenantId savepoint.2.inEffect ∧ Unset savepoint.2.atCommit := fun savepoint hmem =>
  h.savepoints savepoint ((List.dropWhile_sublist _).subset hmem)

theorem Working.answered (h : Working tenantId session) {statement : Statement Setting} (hkeeps : Keeps statement)
    (haccepted : session.rejects statement = false) : Working tenantId (session.answered statement) := by
  obtain ⟨hsettings, block, hblock, hscoped⟩ := h
  unfold Session.answered
  rw [hblock]
  cases statement with
  | commit => cases hkeeps
  | rollback => cases hkeeps
  | plain text => exact ⟨hsettings, block, rfl, hscoped⟩
  | startTransaction => exact ⟨hsettings, block, rfl, hscoped⟩
  | setConfig name value isLocal =>
      cases name with
      | currentTenant => cases hkeeps
      | publicStatusRead => cases hkeeps
      | other name =>
          refine ⟨hsettings, _, rfl, ?_, hscoped.inEffect, hscoped.savepoints⟩
          dsimp only [Point.set]
          split <;> exact hscoped.atCommit
  | savepoint name =>
      have hrunning : block.aborted = false := by
        simpa [Session.rejects, hblock] using haccepted
      have hinEffect := hscoped.inEffect (.inl hrunning)
      refine ⟨hsettings, _, rfl, hscoped.atCommit, fun _ => hinEffect, ?_⟩
      exact List.forall_mem_cons.mpr ⟨⟨hinEffect, hscoped.atCommit⟩, hscoped.savepoints⟩
  | rollbackTo name =>
      have hdown := hscoped.downTo name
      simp only [Session.within]
      cases hcases : block.downTo name with
      | nil => exact ⟨hsettings, block, rfl, hscoped⟩
      | cons savepoint rest =>
          rw [hcases] at hdown
          obtain ⟨hinEffect, hatCommit⟩ := hdown savepoint List.mem_cons_self
          exact ⟨hsettings, _, rfl, hatCommit, fun _ => hinEffect.revert _, hdown⟩
  | releaseSavepoint name =>
      have hrunning : block.aborted = false := by
        simpa [Session.rejects, hblock] using haccepted
      have hinEffect := hscoped.inEffect (.inl hrunning)
      refine ⟨hsettings, _, rfl, hscoped.atCommit, fun _ => hinEffect, fun savepoint hmem => ?_⟩
      exact hscoped.downTo name savepoint (List.mem_of_mem_tail hmem)

-- What is executed in a block that has failed is a rollback to a savepoint it has.
theorem Working.scopedTo (h : Working tenantId session) {statement : Statement Setting} (hkeeps : Keeps statement)
    (haccepted : session.rejects statement = false) : ScopedTo tenantId session.inEffect := by
  obtain ⟨hsettings, block, hblock, hscoped⟩ := h
  have hback : block.aborted = false ∨ block.savepoints ≠ [] := by
    cases statement with
    | commit => cases hkeeps
    | rollback => cases hkeeps
    | rollbackTo name =>
        refine or_iff_not_imp_left.mpr fun haborted hnone => ?_
        simp [Session.rejects, hblock, TransactionBlock.downTo, hnone, haborted] at haccepted
    | plain | setConfig | startTransaction | savepoint | releaseSavepoint =>
        exact .inl (by simpa [Session.rejects, hblock] using haccepted)
  unfold Session.inEffect
  rw [hblock]
  exact hscoped.inEffect hback

theorem Started.working (h : Started session) (tenantId : String) :
    Working tenantId (session.answered (.setConfig .currentTenant tenantId true)) := by
  obtain ⟨hsettings, hblock⟩ := h
  unfold Session.answered
  rw [hblock]
  have hscoped : ScopedTo tenantId (Function.update session.settings .currentTenant (some tenantId)) := by
    refine ⟨Function.update_self _ _ _, ?_⟩
    rw [Function.update_of_ne (by decide)]
    exact hsettings.2
  exact ⟨hsettings, _, rfl, hsettings, fun _ => hscoped, nofun⟩

theorem InBlock.failed (h : InBlock session) {statement : Statement Setting} :
    InBlock (session.failed statement) ∨ IsIdle (session.failed statement) := by
  obtain ⟨hsettings, block, hblock, hatCommit⟩ := h
  unfold Session.failed
  rw [hblock]
  cases statement with
  | commit | rollback => exact .inr (isIdle_ended hsettings block)
  | plain | setConfig | startTransaction | savepoint | rollbackTo | releaseSavepoint =>
      exact .inl ⟨hsettings, _, rfl, hatCommit⟩

-- However its end goes, a block leaves neither setting.
theorem InBlock.ends (h : InBlock session) {statement : Statement Setting}
    (hends : statement = .commit ∨ statement = .rollback) :
    IsIdle (session.answered statement) ∧ IsIdle (session.failed statement) := by
  obtain ⟨hsettings, block, hblock, hatCommit⟩ := h
  unfold Session.answered Session.failed
  rw [hblock]
  have hidle := isIdle_ended hsettings block
  rcases hends with rfl | rfl
  · refine ⟨?_, hidle⟩
    simp only [Session.within]
    split
    · exact hidle
    · exact isIdle_ended hatCommit block
  · exact ⟨hidle, hidle⟩

end Session

theorem Has.mono {property other : Session Setting → Prop} {held : Held (Session Setting)} (h : Has property held)
    (himp : ∀ session, property session → other session) : Has other held := by
  cases held with
  | nothing => exact h
  | lost => trivial
  | holding session => exact himp session h

-- Before its rollback a block is open, or it has ended with its COMMIT.
def MayRollBack (session : Session Setting) : Prop := InBlock session ∨ IsIdle session

section Code

variable {α : Type} {tenantId : String} {held : Held (Session Setting)}
  {property onOk onError : Session Setting → Prop}
  {statement : Statement Setting}

-- What a piece of code leaves in hand, as it returns or throws.
def Ends (onOk onError : Session Setting → Prop) (result : Except ServiceError α)
    (held : Held (Session Setting)) : Prop :=
  match result with
  | .ok _ => Has onOk held
  | .error _ => Has onError held

theorem ends_perform (issuer : Option String) (hheld : Has property held)
    (hanswered : ∀ session, property session → session.rejects statement = false →
      onOk (session.answered statement))
    (hfailed : ∀ session, property session → session.rejects statement = false →
      onError (session.failed statement))
    (hrejected : ∀ session, property session → session.rejects statement = true → onError session)
    (reply : Reply Rows ServiceError) :
    Ends onOk onError (held.perform (connections Rows) ⟨issuer, statement⟩ reply).2
      (held.perform (connections Rows) ⟨issuer, statement⟩ reply).1 := by
  cases held with
  | nothing => cases hheld
  | lost => trivial
  | holding session =>
      simp only [Held.perform, connections, Session.perform]
      cases reply with
      | lost error => trivial
      | answered rows =>
          cases hrejects : session.rejects statement with
          | true => exact hrejected session hheld hrejects
          | false => exact hanswered session hheld hrejects
      | failed error =>
          cases hrejects : session.rejects statement with
          | true => exact hrejected session hheld hrejects
          | false => exact hfailed session hheld hrejects

theorem safe_query (hends : ∀ reply : Reply Rows ServiceError,
    Ends onOk onError (held.perform (connections Rows) ⟨none, statement⟩ reply).2
      (held.perform (connections Rows) ⟨none, statement⟩ reply).1) :
    (query statement).Safe (connections Rows) spec (Ends onOk onError) held := by
  refine ⟨fun seen hseen => ?_, hends⟩
  cases held with
  | nothing | lost => cases hseen
  | holding session =>
      simp only [Held.observe, connections] at hseen
      split at hseen <;> cases hseen

theorem safe_execute (hends : ∀ reply : Reply Rows ServiceError,
    Ends onOk onError (held.perform (connections Rows) ⟨none, statement⟩ reply).2
      (held.perform (connections Rows) ⟨none, statement⟩ reply).1) :
    (execute statement).Safe (connections Rows) spec (Ends onOk onError) held := by
  refine ⟨(safe_query hends).1, fun reply => ?_⟩
  have hreply := hends reply
  cases hresult : (held.perform (connections Rows) ⟨none, statement⟩ reply).2 with
  | ok rows =>
      rw [hresult] at hreply
      exact hreply
  | error error =>
      rw [hresult] at hreply
      exact hreply

-- A callback that keeps to its transaction runs in it throughout.
theorem safe_issue {work : Work Rows R} (hkeeps : work.Keeps) (hheld : Has (Working tenantId) held) :
    (work.issue tenantId).Safe (connections Rows) spec (fun _ held => Has (Working tenantId) held) held := by
  induction work generalizing held with
  | done result => exact hheld
  | query statement next ih =>
      refine ⟨fun seen hseen => ?_, fun reply => ih _ (hkeeps.2 _) ?_⟩
      · cases held with
        | nothing | lost => cases hseen
        | holding session =>
            simp only [Held.observe, connections] at hseen
            split at hseen
            · cases hseen
            · rename_i haccepted
              obtain rfl := Option.some.inj hseen
              exact hheld.scopedTo hkeeps.1 (Bool.eq_false_iff.mpr haccepted)
      · have hends : Ends (Working tenantId) (Working tenantId) _ _ :=
          ends_perform (some tenantId) hheld (fun _ hworking => hworking.answered hkeeps.1)
            (fun _ hworking _ => hworking.failed hkeeps.1) (fun _ hworking _ => hworking) reply
        unfold Ends at hends
        split at hends <;> exact hends

theorem MayRollBack.rollback {session : Session Setting} (h : MayRollBack session) :
    IsIdle (session.answered .rollback) ∧ IsIdle (session.failed .rollback) := by
  rcases h with hblock | hidle
  · exact hblock.ends (.inr rfl)
  · unfold Session.answered Session.failed
    rw [hidle.1]
    exact ⟨⟨rfl, hidle.2⟩, hidle⟩

theorem safe_rollback (hheld : Has MayRollBack held) :
    (execute .rollback).Safe (connections Rows) spec (Ends IsIdle IsIdle) held :=
  safe_execute (ends_perform none hheld (fun _ h _ => h.rollback.1) (fun _ h _ => h.rollback.2) nofun)

theorem safe_commit (hheld : Has InBlock held) :
    (execute .commit).Safe (connections Rows) spec (Ends IsIdle IsIdle) held :=
  safe_execute (ends_perform none hheld (fun _ h _ => (h.ends (.inl rfl)).1) (fun _ h _ => (h.ends (.inl rfl)).2) nofun)

-- The end of a block.
theorem safe_committing (value : α) (hheld : Has InBlock held) :
    Prog.Safe (connections Rows) spec (Ends IsIdle MayRollBack)
      (do
        execute .commit
        return value : RunnerM Rows α) held := by
  refine Prog.safe_bind.mpr ((safe_commit hheld).mono fun committed held hcommitted => ?_)
  cases committed with
  | ok => exact hcommitted
  | error => exact Has.mono hcommitted fun _ => .inr

theorem safe_startTransaction (hheld : Has IsIdle held) :
    (execute .startTransaction).Safe (connections Rows) spec (Ends Started fun _ => True) held := by
  refine safe_execute (ends_perform none hheld (fun session hidle _ => ?_) (fun _ _ _ => trivial) fun _ _ _ => trivial)
  unfold Session.answered
  rw [hidle.1]
  exact ⟨hidle.2, rfl⟩

-- A call takes an idle connection and opens a block on it.
theorem safe_opening {next : RunnerM Rows α}
    (hnext : ∀ held, Has Started held → next.Safe (connections Rows) spec (fun _ _ => True) held) :
    Prog.Safe (connections Rows) spec (fun _ _ => True)
      (do
        connect
        execute .startTransaction
        next) .nothing := by
  refine Prog.safe_bind.mpr ⟨fun _ => trivial, fun session hidle => ?_⟩
  have hheld : Has IsIdle (.holding session) := hidle
  refine Prog.safe_bind.mpr ((safe_startTransaction hheld).mono fun started held hstarted => ?_)
  cases started with
  | error => trivial
  | ok => exact hnext held hstarted

theorem safe_setTenant (hheld : Has Started held) :
    (execute (.setConfig .currentTenant tenantId true)).Safe (connections Rows) spec
      (Ends (Working tenantId) MayRollBack) held :=
  safe_execute (ends_perform none hheld (fun _ h _ => h.working tenantId) (fun _ h _ => h.inBlock.failed)
    fun _ h _ => .inl h.inBlock)

theorem safe_setPublic (hheld : Has InBlock held) :
    (execute (.setConfig .publicStatusRead "true" true)).Safe
      (connections Rows) spec (Ends InBlock MayRollBack) held := by
  refine safe_execute (ends_perform none hheld ?_ (fun _ h _ => h.failed) fun _ h _ => .inl h)
  rintro session ⟨hsettings, block, hblock, hatCommit⟩ -
  unfold Session.answered
  rw [hblock]
  exact ⟨hsettings, _, rfl, hatCommit⟩

theorem safe_plain (text : String) (hheld : Has InBlock held) :
    (query (.plain text)).Safe (connections Rows) spec (Ends InBlock MayRollBack) held := by
  refine safe_query (ends_perform none hheld ?_ (fun _ h _ => h.failed) fun _ h _ => .inl h)
  rintro session ⟨hsettings, block, hblock, hatCommit⟩ -
  unfold Session.answered
  rw [hblock]
  exact ⟨hsettings, block, rfl, hatCommit⟩

theorem safe_release (hheld : Has IsIdle held) :
    release.Safe (connections Rows) spec (fun _ held => held = .nothing) held := by
  refine ⟨fun session hmem => ?_, rfl⟩
  cases held with
  | nothing => cases hheld
  | lost => cases hmem
  | holding resource =>
      obtain rfl := List.mem_singleton.mp hmem
      exact hheld

-- The try statement of both services: whatever the body leaves, an idle connection goes
-- back.
theorem safe_block {body : RunnerM Rows α}
    (hbody : body.Safe (connections Rows) spec (Ends IsIdle MayRollBack) held) :
    Prog.Safe (connections Rows) spec (fun _ held => held = .nothing)
      (tryFinally (tryCatch body fun error => do
        execute .rollback
        throw error) release) held := by
  have hfinally : ∀ (result : Except ServiceError α) held, Has IsIdle held →
      release.Safe (connections Rows) spec (fun final held =>
        match final with
        | .ok _ => held = .nothing
        | .error _ => held = .nothing) held := by
    intro result held hidle
    refine (safe_release hidle).mono fun final held hnothing => ?_
    cases final <;> exact hnothing
  refine Prog.safe_tryFinally.mpr (Prog.safe_tryCatch.mpr (hbody.mono fun result held hends => ?_))
  cases result with
  | ok value => exact hfinally (.ok value) held hends
  | error error =>
      refine Prog.safe_bind.mpr ((safe_rollback hends).mono fun rolledBack held hidle => ?_)
      cases rolledBack with
      | ok => exact hfinally (.error error) held hidle
      | error failure => exact hfinally (.error failure) held hidle

theorem safe_withTenantContext {work : Work Rows R} (hkeeps : work.Keeps) :
    (withTenantContext tenantId work).Safe (connections Rows) spec (fun _ _ => True) .nothing := by
  refine safe_opening fun held hstarted => (safe_block ?_).mono fun _ _ _ => trivial
  refine Prog.safe_bind.mpr ((safe_setTenant hstarted).mono fun set held hscoped => ?_)
  cases set with
  | error => exact hscoped
  | ok =>
      refine Prog.safe_bind.mpr ((safe_issue hkeeps hscoped).mono fun result held hworking => ?_)
      have hblock : Has InBlock held := hworking.mono fun _ h => h.inBlock
      cases result with
      | error => exact hblock.mono fun _ => .inl
      | ok value => exact safe_committing value hblock

theorem safe_getPublicStatus (firstPage : Rows → Option StatusPage) (slug : String)
    {components : StatusPage → Work Rows R} (hkeeps : ∀ page, (components page).Keeps) :
    (getPublicStatus firstPage slug components).Safe (connections Rows) spec (fun _ _ => True) .nothing := by
  refine safe_opening fun held hstarted => ?_
  refine Prog.safe_bind.mpr ((safe_block ?_).mono fun looked held hnothing => ?_)
  · have hset : Has InBlock held := Has.mono hstarted fun _ h => h.inBlock
    refine Prog.safe_bind.mpr ((safe_setPublic hset).mono fun flagged held hflagged => ?_)
    cases flagged with
    | error => exact hflagged
    | ok =>
        refine Prog.safe_bind.mpr ((safe_plain _ hflagged).mono fun found held hfound => ?_)
        cases found with
        | error => exact hfound
        | ok rows => exact safe_committing rows hfound
  · cases looked with
    | error => trivial
    | ok rows =>
        subst hnothing
        dsimp only
        split
        · trivial
        · exact safe_withTenantContext (hkeeps _)

end Code

-- Wherever calls of the two services interleave, over however many connections, and
-- whatever fails, the settings stay with the call they are set for.
theorem settings_never_leak (firstPage : Rows → Option StatusPage) (events : List (PoolEvent Rows R))
    (hkeep : ∀ event ∈ events, CallsKeep event) :
    Runs.Always (step firstPage) NoLeak .empty events := by
  have hnew : spec.idle (connections Rows).fresh := ⟨rfl, rfl, rfl⟩
  refine (sound_throughout hnew events fun event hmem => ?_).mono fun pool hsound => ?_
  · have hkeeps := hkeep event hmem
    cases event with
    | turn | discard => trivial
    | start id call =>
        cases call with
        | withTenantContext tenantId work => exact safe_withTenantContext hkeeps
        | getPublicStatus slug components => exact safe_getPublicStatus firstPage slug hkeeps
  · refine ⟨hsound.observed, fun session hmem => ?_⟩
    obtain ⟨hblock, hunset⟩ := hsound.idle session hmem
    unfold Session.inEffect
    rw [hblock]
    exact hunset

-- A call takes its connection, and all of its statements are answered.
def turns (id : Nat) (taken : Choice (Reply Unit ServiceError) ServiceError)
    (count : Nat) : List (PoolEvent Unit Unit) :=
  .turn id taken :: .replicate count (.turn id (.outcome (.answered ())))

-- Two calls over one connection, the second a look at a public page.
theorem twoCalls_never_leak :
    Runs.Always (step fun _ => some ⟨"1", "b", "Status", none⟩) NoLeak .empty
      (.start 1 (.withTenantContext "a" (.query (.plain "SELECT 1") fun _ => .done (.ok ()))) ::
        .start 2 (.getPublicStatus "status" fun _ => .done (.ok ())) ::
          (turns 1 .fresh 5 ++ turns 2 (.idle 0) 5 ++ turns 2 (.idle 0) 4)) := by
  refine settings_never_leak _ _ fun event hmem => ?_
  rcases List.mem_cons.mp hmem with rfl | hmem
  · exact ⟨trivial, fun _ => trivial⟩
  rcases List.mem_cons.mp hmem with rfl | hmem
  · exact fun _ => trivial
  · have hturn : ∀ event ∈ turns 1 .fresh 5 ++ turns 2 (.idle 0) 5 ++ turns 2 (.idle 0) 4, CallsKeep event := by
      simp [turns, CallsKeep]
    exact hturn event hmem

-- A callback that commits by itself goes on without its tenant.
theorem commit_in_callback_leaks :
    ¬ Runs.Always (step fun _ => none) NoLeak .empty
      (.start 1 (.withTenantContext "a"
          (.query .commit fun _ => .query (.plain "SELECT 1") fun _ => .done (.ok ()))) ::
        turns 1 .fresh 4) := by
  decide +kernel

end CloudOps.Platform.TenantContext
