import CloudOps.Monitoring.AlertLifecycle

namespace CloudOps.Monitoring

open CloudOps.ReadCommitted

-- The steps fired for an alert: those the committed passes decided on, in the
-- order of their commits.
def firedSteps (world : AlertWorld) (id : Nat) : List Nat :=
  world.returned.flatMap fun pass =>
    (pass.value.actions.filter fun action => action.alertId = id).map PendingEscalation.stepNumber

-- What was fired is a step of the policy the alert had, no sooner than its delay.
def OnTime (world : AlertWorld) (pass : Returned Nat Alert AlertReply AlertCall)
    (action : PendingEscalation) : Prop :=
  ∃ catalog alert steps, pass.call = .sweep catalog ∧
    world.committed.lookup action.alertId = some alert ∧
    catalog.join alert = some (action.monitorName, steps) ∧
    steps[action.stepNumber]? = some action.step ∧
    alert.openedAt + action.step.delayMinutes * 60000 ≤ pass.returnedAt

-- `inOrder`: the steps fired are 0, 1, 2, ... , each of them once.
structure Escalation (world : AlertWorld) : Prop where
  inOrder : ∀ id, firedSteps world id = List.range (firedSteps world id).length
  onTime : ∀ pass ∈ world.returned, ∀ action ∈ pass.value.actions, OnTime world pass action
  quiet : ∀ pass ∈ world.returned, ∀ action ∈ pass.value.actions,
    ¬ IsResolved pass.begunOn action.alertId

structure Advances (before after : AlertWorld) : Prop where
  step : ∀ id old new, before.committed.lookup id = some old → after.committed.lookup id = some new →
    old.lastEscalatedStep ≤ new.lastEscalatedStep
  resolved : ∀ id, IsResolved before.committed id → IsResolved after.committed id

def ExactlyOnce (texts : ReasonTexts) (start : AlertDb) (events : List (Event Nat Alert AlertCall)) :
    Prop :=
  Runs.Always (Db.step (alertService texts)) (fun db => Escalation db.world) start events ∧
  Runs.Throughout (Db.step (alertService texts)) (fun earlier later => Advances earlier.world later.world)
    start events

-- A pass about to commit an advance of an alert that another pass has advanced
-- since this one read it.
def escalatesStale (world : AlertWorld) (call : AlertCall) (writes : Table Nat Alert) : Bool :=
  match call with
  | .sweep _ => writes.rows.any fun row => (world.committed.lookup row.1).any fun alert =>
      decide (row.2.lastEscalatedStep ≠ alert.lastEscalatedStep + 1)
  | _ => false

def escalatesOnce (world : AlertWorld) (call : AlertCall) (writes : Table Nat Alert) : Bool :=
  !escalatesStale world call writes && !acknowledgesResolved world call writes

def NoStaleEscalation : AlertDb → Event Nat Alert AlertCall → Prop :=
  CommitMeets fun world call writes _ => escalatesOnce world call writes = true

instance (db : AlertDb) : DecidablePred (NoStaleEscalation db) :=
  inferInstanceAs (DecidablePred (CommitMeets
    (fun world call writes _ => escalatesOnce world call writes = true) db))

-- The column counts the steps fired.
structure Escalated (world : AlertWorld) : Prop extends Escalation world where
  counted : ∀ id alert, world.committed.lookup id = some alert →
    alert.lastEscalatedStep + 1 = (firedSteps world id).length
  unopened : ∀ id, world.committed.lookup id = none → firedSteps world id = []

structure LaterEscalated (before after : AlertWorld) : Prop extends Later before after where
  step : ∀ id old new, before.committed.lookup id = some old → after.committed.lookup id = some new →
    old.lastEscalatedStep ≤ new.lastEscalatedStep

theorem LaterEscalated.trans {a b c : AlertWorld} (hab : LaterEscalated a b)
    (hbc : LaterEscalated b c) : LaterEscalated a c where
  toLater := hab.toLater.trans hbc.toLater
  step id old new ho hn := by
    obtain ⟨mid, hm, -, -⟩ := hab.rows id old ho
    exact le_trans (hab.step id old mid ho hm) (hbc.step id mid new hm hn)

theorem Later.isResolved {before after : AlertWorld} (h : Later before after) {id : Nat}
    (hresolved : IsResolved before.committed id) : IsResolved after.committed id := by
  obtain ⟨old, ho, hs⟩ := Option.map_eq_some_iff.mp hresolved
  obtain ⟨new, hn, -, hstays⟩ := h.rows id old ho
  simp [IsResolved, hn, hstays hs]

theorem OnTime.later {before after : AlertWorld} (h : Later before after)
    {pass : Returned Nat Alert AlertReply AlertCall} {action : PendingEscalation}
    (hon : OnTime before pass action) : OnTime after pass action := by
  obtain ⟨catalog, alert, steps, hcall, ha, hjoin, hstep, hdue⟩ := hon
  obtain ⟨new, hn, hsame, -⟩ := h.rows _ alert ha
  refine ⟨catalog, new, steps, hcall, hn, (catalog.join_congr hsame).trans hjoin, hstep, ?_⟩
  simp only [Alert.identity, Prod.mk.injEq] at hsame
  rwa [hsame.2.2.2.2]

theorem filter_alertId_eq {actions : List PendingEscalation} {action : PendingEscalation}
    (hnodup : (actions.map PendingEscalation.alertId).Nodup) (ha : action ∈ actions) :
    (actions.filter fun other => other.alertId = action.alertId) = [action] := by
  induction actions with
  | nil => simp at ha
  | cons first rest ih =>
      obtain ⟨hfirst, hrest⟩ := List.nodup_cons.mp hnodup
      rcases List.mem_cons.mp ha with rfl | ha
      · rw [List.filter_cons_of_pos (by simp), List.filter_eq_nil_iff.mpr]
        intro other ho
        simp only [decide_eq_true_eq]
        exact fun he => hfirst (he ▸ List.mem_map_of_mem ho)
      · rw [List.filter_cons_of_neg, ih hrest ha]
        simp only [decide_eq_true_eq]
        exact fun he => hfirst (he ▸ List.mem_map_of_mem ha)

theorem firedSteps_publish (world : AlertWorld) (call : AlertCall) (begunOn : Table Nat Alert)
    (startedAt : Nat) (writes : Table Nat Alert) (reply : AlertReply) (id : Nat) :
    firedSteps (world.publish call begunOn startedAt writes reply) id = firedSteps world id ++
      (reply.actions.filter fun action => action.alertId = id).map PendingEscalation.stepNumber := by
  simp [firedSteps, World.publish]

-- What a committed transaction means for one alert: it fires the alert's next step
-- and advances the column, or leaves both as they are.
inductive AlertAdvance (world : AlertWorld) (writes : Table Nat Alert) (reply : AlertReply) (id : Nat) :
    Prop where
  | fired (action : PendingEscalation) (old : Alert)
      (hfired : reply.actions.filter (fun other => other.alertId = id) = [action])
      (hold : world.committed.lookup id = some old)
      (hnew : (writes ∪ world.committed).lookup id =
        some { old with lastEscalatedStep := action.stepNumber })
      (hnext : (action.stepNumber : Int) = old.lastEscalatedStep + 1)
  | still (hquiet : reply.actions.filter (fun other => other.alertId = id) = [])
      (hkeep : ∀ new, (writes ∪ world.committed).lookup id = some new → new.lastEscalatedStep =
        ((world.committed.lookup id).map Alert.lastEscalatedStep).getD (-1))

theorem escalatesStale_eq_false {world : AlertWorld} {catalog : EscalationCatalog}
    {writes : Table Nat Alert} (h : escalatesStale world (.sweep catalog) writes = false) {id : Nat}
    {row alert : Alert} (hw : writes.lookup id = some row)
    (hc : world.committed.lookup id = some alert) :
    row.lastEscalatedStep = alert.lastEscalatedStep + 1 := by
  simp only [escalatesStale, List.any_eq_false] at h
  have hrow := h (id, row) (Table.mem_rows.mpr hw)
  simpa [hc] using hrow

theorem CallDone.advance {call : AlertCall} {begunOn : Table Nat Alert} {startedAt : Nat}
    {world : AlertWorld} {writes : Table Nat Alert} {reply : AlertReply}
    (h : CallDone call begunOn startedAt world writes reply)
    (honce : escalatesOnce world call writes = true) (id : Nat) :
    AlertAdvance world writes reply id := by
  by_cases hcall : ∃ catalog, call = .sweep catalog
  · obtain ⟨catalog, rfl⟩ := hcall
    have hstale : escalatesStale world (.sweep catalog) writes = false := by
      simp only [escalatesOnce, Bool.and_eq_true, Bool.not_eq_true'] at honce
      exact honce.1
    have hswept := h.swept catalog rfl
    by_cases hid : id ∈ writes
    · obtain ⟨action, ha, rfl⟩ := hswept.covered id hid
      obtain ⟨alert, steps, he⟩ := hswept.each action ha
      refine .fired action alert (filter_alertId_eq hswept.nodup ha) he.committed ?_ ?_
      · exact Table.lookup_union_own he.written _
      · exact escalatesStale_eq_false hstale he.written he.committed
    · refine .still (List.filter_eq_nil_iff.mpr fun action ha => ?_) fun new hn => ?_
      · obtain ⟨alert, steps, he⟩ := hswept.each action ha
        simp only [decide_eq_true_eq]
        rintro rfl
        exact hid (Table.mem_of_lookup he.written)
      · rw [Table.lookup_union_of_notMem hid] at hn
        simp [hn]
  · have hsweep : ∀ catalog, call ≠ .sweep catalog := fun catalog hc => hcall ⟨catalog, hc⟩
    exact .still (by simp [h.quiet hsweep]) fun new hn => h.changes.lastEscalatedStep hsweep hn

theorem CallDone.escalates {call : AlertCall} {begunOn : Table Nat Alert} {startedAt : Nat}
    {world : AlertWorld} {writes : Table Nat Alert} {reply : AlertReply}
    (h : CallDone call begunOn startedAt world writes reply) {action : PendingEscalation}
    (ha : action ∈ reply.actions) : ∃ catalog alert steps, call = .sweep catalog ∧
      Escalates catalog begunOn world writes action alert steps := by
  by_cases hcall : ∃ catalog, call = .sweep catalog
  · obtain ⟨catalog, rfl⟩ := hcall
    obtain ⟨alert, steps, he⟩ := (h.swept catalog rfl).each action ha
    exact ⟨catalog, alert, steps, rfl, he⟩
  · rw [h.quiet fun catalog hc => hcall ⟨catalog, hc⟩] at ha
    simp at ha

theorem Escalated.publish {call : AlertCall} {begunOn : Table Nat Alert} {startedAt : Nat}
    {world : AlertWorld} {writes : Table Nat Alert} {reply : AlertReply} (hinv : Escalated world)
    (h : CallDone call begunOn startedAt world writes reply)
    (honce : escalatesOnce world call writes = true) :
    let after := world.publish call begunOn startedAt writes reply
    Escalated after ∧ LaterEscalated world after := by
  intro after
  have hack : acknowledgesResolved world call writes = false := by
    simp only [escalatesOnce, Bool.and_eq_true, Bool.not_eq_true'] at honce
    exact honce.2
  have hlater : Later world after := h.changes.later hack begunOn startedAt reply
  have hfired := firedSteps_publish world call begunOn startedAt writes reply
  have hadvance := h.advance honce
  have hreturned : ∀ pass ∈ after.returned, pass ∈ world.returned ∨
      pass = ⟨call, begunOn, startedAt, reply, world.clock⟩ := by
    intro pass hp
    simpa [after, World.publish] using hp
  refine ⟨{ inOrder := fun id => ?_, onTime := ?_, quiet := ?_, counted := ?_, unopened := ?_ },
    { hlater with step := ?_ }⟩
  · rw [hfired]
    cases hadvance id with
    | fired action old hfilter hold hnew hnext =>
        have hcount := hinv.counted id old hold
        have hnumber : action.stepNumber = (firedSteps world id).length := by omega
        rw [hfilter, List.length_append, List.map_singleton, List.length_singleton, List.range_succ,
          ← hinv.inOrder id, hnumber]
    | still hquiet _ => rw [hquiet, List.map_nil, List.append_nil, ← hinv.inOrder id]
  · intro pass hp action ha
    rcases hreturned pass hp with hp | rfl
    · exact (hinv.onTime pass hp action ha).later hlater
    · obtain ⟨catalog, alert, steps, rfl, he⟩ := h.escalates ha
      have hon : OnTime world ⟨.sweep catalog, begunOn, startedAt, reply, world.clock⟩ action :=
        ⟨catalog, alert, steps, rfl, he.committed, he.policy, he.step, he.due⟩
      exact hon.later hlater
  · intro pass hp action ha
    rcases hreturned pass hp with hp | rfl
    · exact hinv.quiet pass hp action ha
    · obtain ⟨catalog, alert, steps, rfl, he⟩ := h.escalates ha
      intro hresolved
      obtain ⟨old, ho, hs⟩ := Option.map_eq_some_iff.mp hresolved
      exact he.unresolved old ho hs
  · intro id alert ha
    rw [hfired]
    cases hadvance id with
    | fired action old hfilter hold hnew hnext =>
        obtain rfl := Option.some.inj (ha.symm.trans hnew)
        have hcount := hinv.counted id old hold
        rw [hfilter, List.length_append, List.map_singleton, List.length_singleton]
        dsimp only
        omega
    | still hquiet hkeep =>
        rw [hquiet, List.map_nil, List.append_nil, hkeep alert ha]
        cases hc : world.committed.lookup id with
        | none => simp [hinv.unopened id hc]
        | some old => exact hinv.counted id old hc
  · intro id hn
    have hnone : world.committed.lookup id = none := by
      simp only [after, World.publish, Table.lookup_union, Option.or_eq_none_iff] at hn
      exact hn.2
    rw [hfired, hinv.unopened id hnone]
    cases hadvance id with
    | fired _ old _ hold _ _ => simp [hnone] at hold
    | still hquiet _ => rw [hquiet, List.map_nil, List.append_nil]
  · intro id old new ho hn
    cases hadvance id with
    | fired action found _ hold hnew hnext =>
        obtain rfl := Option.some.inj (ho.symm.trans hold)
        obtain rfl := Option.some.inj (hn.symm.trans hnew)
        dsimp only
        omega
    | still _ hkeep =>
        rw [hkeep new hn, ho]
        exact le_refl _

def escalation (texts : ReasonTexts) : RelyGuarantee (alertService texts) where
  rely := LaterEscalated
  inv := Escalated
  post := CallDone
  condition world call writes _ := escalatesOnce world call writes = true
  refl world :=
    { Later.refl world with
      step := by
        intro id old new ho hn
        rw [Option.some.inj (ho.symm.trans hn)] }
  trans _ _ _ := LaterEscalated.trans
  tick world elapsed hinv := by
    refine ⟨?_, ⟨Nat.le_add_right _ _, fun _ old h => ⟨old, h, rfl, id⟩⟩, ?_⟩
    · exact ⟨⟨hinv.inOrder, hinv.onTime, hinv.quiet⟩, hinv.counted, hinv.unopened⟩
    · intro id old new ho hn
      rw [Option.some.inj (ho.symm.trans hn)]
  body call world _ := alertService_done (fun _ _ h => h.toLater) texts call world
  commit _ _ _ _ _ _ hinv hdone hcondition := hinv.publish hdone hcondition

-- Escalation fires each step once and on time in every run in which no pass commits
-- an advance that another pass has overtaken, and no acknowledge commits over a
-- resolved alert.
theorem escalates_exactly_once (texts : ReasonTexts) (committed : Table Nat Alert) (clock : Nat)
    (hfresh : ∀ row ∈ committed.rows, row.2.lastEscalatedStep = -1)
    (events : List (Event Nat Alert AlertCall))
    (hmeets : Runs.AllSteps (Db.step (alertService texts)) NoStaleEscalation
      (Db.start (World.start committed clock)) events) :
    ExactlyOnce texts (Db.start (World.start committed clock)) events := by
  have hinv : (escalation texts).inv (World.start committed clock) :=
    { inOrder := fun _ => rfl
      onTime := by simp [World.start]
      quiet := by simp [World.start]
      counted := by
        intro id alert ha
        have hstep := hfresh (id, alert) (Table.mem_rows.mpr ha)
        simp only at hstep
        simp [hstep, firedSteps, World.start]
      unopened := fun _ _ => rfl }
  refine ⟨((escalation texts).always_inv hinv hmeets).mono fun _ h => h.toEscalation, ?_⟩
  intro first second rest he
  have hrely := (escalation texts).throughout_rely hinv hmeets first second rest he
  exact ⟨hrely.step, fun _ => hrely.toLater.isResolved⟩

-- A policy that mails at once and again after ten minutes.
def twoStepCatalog : EscalationCatalog where
  escalationPolicyId _ := some 1
  steps _ := some [⟨0, [⟨.email, "oncall@example.com"⟩]⟩, ⟨10, [⟨.sms, "+15550100"⟩]⟩]
  monitorName _ := some "api"

-- The second pass begins before the first one commits, but reads after it.
def overlappingSweeps : List (Event Nat Alert AlertCall) :=
  [.begin 1 (.sweep twoStepCatalog), .begin 2 (.sweep twoStepCatalog), statement 1, statement 1,
    statement 1, .commit 1, .tick 600000, statement 2, statement 2, statement 2, .commit 2]

theorem overlappingSweeps_exactly_once :
    ExactlyOnce plainTexts (Db.start (World.start openAlert 100)) overlappingSweeps :=
  escalates_exactly_once plainTexts openAlert 100 (by decide) _ (by decide)

-- Here both read the alert before either advances it.
def racingSweeps : List (Event Nat Alert AlertCall) :=
  [.begin 1 (.sweep twoStepCatalog), .begin 2 (.sweep twoStepCatalog), statement 1, statement 2,
    statement 1, statement 2, statement 1, .commit 1, statement 2, .commit 2]

theorem racing_sweeps_fire_twice :
    ¬ ExactlyOnce plainTexts (Db.start (World.start openAlert 100)) racingSweeps := by
  intro h
  exact absurd (h.1.last.inOrder 7) (by decide)

end CloudOps.Monitoring
