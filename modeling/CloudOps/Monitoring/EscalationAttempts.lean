import CloudOps.Monitoring.AlertSpecs
import CloudOps.Monitoring.EscalationSweep
import CloudOps.ReadCommitted.Solo

namespace CloudOps.Monitoring

open CloudOps.ReadCommitted CloudOps.MarkThenDispatch

-- The step of an alert that is due, when no other transaction interferes.
def escalationOf (catalog : EscalationCatalog) (now : Nat) (row : Nat × Alert) :
    Option PendingEscalation :=
  (catalog.join row.2).bind fun policy =>
    let nextIndex := (row.2.lastEscalatedStep + 1).toNat
    (policy.2[nextIndex]?).bind fun nextStep =>
      if row.2.openedAt + nextStep.delayMinutes * 60000 ≤ now then
        some { alertId := row.1, monitorName := policy.1, severity := row.2.severity,
               reasonText := row.2.reasonText, step := nextStep, stepNumber := nextIndex }
      else none

-- The steps that are due, in the order of the scan.
def dueEscalations (catalog : EscalationCatalog) (order : ScanOrder (Nat × Alert)) (now : Nat)
    (alerts : Table Nat Alert) : List PendingEscalation :=
  (order.apply (alerts.rows.filter fun row => row.2.isActive && (catalog.join row.2).isSome)).filterMap
    (escalationOf catalog now)

-- An advance changes no column of the unique index.
def noConflict (_ _ : Alert) : Bool := false

-- One pass up to its commit, with no other transaction beside it.
def passAlone (catalog : EscalationCatalog) (solo : Solo Nat Alert) (now : Nat)
    (alerts : Table Nat Alert) : Outcome Nat Alert ServiceError (List PendingEscalation) :=
  (sweepTenant catalog).alone noConflict solo now ∅ alerts

-- A step that last_escalated_step has been committed to count.
structure Advance where
  alertId : Nat
  stepNumber : Nat
  step : EscalationStep
  deriving DecidableEq

-- The advances among the rows a transaction of the sweep committed.
def advancesOf (catalog : EscalationCatalog) (writes : Table Nat Alert) : List Advance :=
  writes.rows.filterMap fun row => (catalog.join row.2).bind fun policy =>
    let stepNumber := row.2.lastEscalatedStep.toNat
    (policy.2[stepNumber]?).map fun step => ⟨row.1, stepNumber, step⟩

structure EscalationState where
  alerts : Table Nat Alert
  advanced : List Advance
  enqueued : List EnqueueCall

def EscalationState.start : EscalationState := ⟨∅, [], []⟩

-- The calls of the other services, and the passes of the sweep.
inductive EscalationEvent where
  | request (call : AlertCall) (other : ∀ catalog, call ≠ .sweep catalog) (solo : Solo Nat Alert) (now : Nat)
  | sweep (catalog : EscalationCatalog) (templates : NotifyChannel → Option String)
      (fails : NotificationKey → Bool) (solo : Solo Nat Alert) (now : Nat)

variable (texts : ReasonTexts)

def EscalationState.step (state : EscalationState) : EscalationEvent → EscalationState
  | .request call _ solo now =>
      let outcome := ((alertService texts).body call now).alone oneActivePerMonitor solo now ∅ state.alerts
      { state with alerts := outcome.table state.alerts }
  | .sweep catalog templates fails solo now =>
      match passAlone catalog solo now state.alerts with
      | .returned actions writes =>
          { alerts := writes ∪ state.alerts
            advanced := state.advanced ++ advancesOf catalog writes
            enqueued := state.enqueued ++ enqueueAll templates fails (notificationsOf actions) }
      | .threw _ | .failed => state

-- A target of a step that was committed as escalated.
def Advanced (state : EscalationState) (key : NotificationKey) : Prop :=
  ∃ advance ∈ state.advanced, advance.alertId = key.1 ∧ advance.stepNumber = key.2.1 ∧
    key.2.2 < advance.step.notify.length

def Enqueued (state : EscalationState) (key : NotificationKey) : Prop :=
  ∃ call ∈ state.enqueued, call.key = key

theorem escalationOf_eq_some {catalog : EscalationCatalog} {now : Nat} {row : Nat × Alert}
    {action : PendingEscalation} (h : escalationOf catalog now row = some action) :
    action.alertId = row.1 ∧ action.stepNumber = (row.2.lastEscalatedStep + 1).toNat := by
  obtain ⟨policy, -, h⟩ := Option.bind_eq_some_iff.mp h
  obtain ⟨nextStep, -, h⟩ := Option.bind_eq_some_iff.mp h
  split at h
  · obtain rfl := Option.some.inj h
    exact ⟨rfl, rfl⟩
  · cases h

-- The loop on its own finds every step that is due.
theorem escalateDue_alone (catalog : EscalationCatalog) (solo : Solo Nat Alert) (now : Nat)
    (alerts : Table Nat Alert) (rows : List (Nat × Alert)) (actions : List PendingEscalation)
    (writes : Table Nat Alert) (hpresent : ∀ row ∈ rows, row.1 ∈ alerts)
    (hsteps : ∀ row ∈ rows, -1 ≤ row.2.lastEscalatedStep) :
    ∃ final, (escalateDue catalog rows actions).alone noConflict solo now writes alerts =
      .returned (actions ++ rows.filterMap (escalationOf catalog now)) final := by
  induction rows generalizing actions writes with
  | nil => exact ⟨writes, by simp [escalateDue, Prog.alone]⟩
  | cons row rest ih =>
      obtain ⟨id, alert⟩ := row
      have hrest := fun actions writes => ih actions writes
        (fun other ho => hpresent other (List.mem_cons_of_mem _ ho))
        (fun other ho => hsteps other (List.mem_cons_of_mem _ ho))
      have hskip (hnone : escalationOf catalog now (id, alert) = none) :
          ∃ final, (escalateDue catalog rest actions).alone noConflict solo now writes alerts =
            .returned (actions ++ ((id, alert) :: rest).filterMap (escalationOf catalog now)) final := by
        rw [List.filterMap_cons_none hnone]
        exact hrest actions writes
      have hstep : -1 ≤ alert.lastEscalatedStep := hsteps (id, alert) List.mem_cons_self
      unfold escalateDue
      cases hjoin : catalog.join alert with
      | none => exact hskip (by simp [escalationOf, hjoin])
      | some policy =>
          obtain ⟨monitorName, steps⟩ := policy
          obtain ⟨number, hnumber⟩ := Int.eq_ofNat_of_zero_le
            (show 0 ≤ alert.lastEscalatedStep + 1 by omega)
          have hof : escalationOf catalog now (id, alert) = (steps[number]?).bind fun nextStep =>
              if alert.openedAt + nextStep.delayMinutes * 60000 ≤ now then
                some ⟨id, monitorName, alert.severity, alert.reasonText, nextStep, number⟩
              else none := by
            simp only [escalationOf, hjoin, hnumber, Option.bind_some, Int.toNat_natCast]
          dsimp only
          rw [hnumber, Int.toNat_natCast]
          by_cases hlast : (number : Int) ≥ steps.length
          · rw [if_pos hlast]
            apply hskip
            rw [hof, List.getElem?_eq_none (by omega), Option.bind_none]
          · have hbound : number < steps.length := by omega
            rw [if_neg hlast, if_neg (by omega)]
            rw [List.getElem?_eq_getElem hbound, Option.bind_some] at hof
            rw [List.getElem?_eq_getElem hbound]
            dsimp only
            rw [Prog.dateNow_bind, Prog.alone]
            by_cases hdue : now < alert.openedAt + steps[number].delayMinutes * 60000
            · rw [if_pos hdue]
              apply hskip
              rw [hof, if_neg (by omega)]
            · rw [if_neg hdue]
              rw [if_pos (by omega)] at hof
              obtain ⟨current, hcurrent⟩ : ∃ current, (writes ∪ alerts).lookup id = some current :=
                Option.isSome_iff_exists.mp (AList.lookup_isSome.mpr
                  (AList.mem_union.mpr (.inr (hpresent _ List.mem_cons_self))))
              have hclash : uniqueClash noConflict id { current with lastEscalatedStep := (number : Int) }
                  (writes ∪ alerts) = false := by
                simp [uniqueClash, noConflict]
              rw [List.filterMap_cons_some hof]
              simp only [Prog.update_bind, Prog.alone, hcurrent, Option.map_some, hclash,
                Bool.false_eq_true, if_false]
              obtain ⟨final, hfinal⟩ := hrest
                (actions ++ [⟨id, monitorName, alert.severity, alert.reasonText, steps[number], number⟩])
                (writes.insert id { current with lastEscalatedStep := (number : Int) })
              exact ⟨final, by simpa using hfinal⟩

-- What a pass on its own commits and hands back.
theorem passAlone_returned (catalog : EscalationCatalog) (solo : Solo Nat Alert) (now : Nat)
    (alerts : Table Nat Alert)
    (hsteps : ∀ id alert, alerts.lookup id = some alert → -1 ≤ alert.lastEscalatedStep) :
    ∃ writes, passAlone catalog solo now alerts =
        .returned (dueEscalations catalog solo.order now alerts) writes ∧
      SweepDone catalog alerts (World.start alerts now) writes
        (dueEscalations catalog solo.order now alerts) := by
  have hrows : ∀ row ∈ solo.order.apply (alerts.rows.filter fun row =>
      row.2.isActive && (catalog.join row.2).isSome), alerts.lookup row.1 = some row.2 := by
    intro row hrow
    exact Table.mem_rows.mp (List.mem_filter.mp ((solo.order.perm _).mem_iff.mp hrow)).1
  obtain ⟨final, hfinal⟩ := escalateDue_alone catalog solo now alerts _ [] ∅
    (fun row hrow => Table.mem_of_lookup (hrows row hrow))
    (fun row hrow => hsteps row.1 row.2 (hrows row hrow))
  have hreturned : passAlone catalog solo now alerts =
      .returned (dueEscalations catalog solo.order now alerts) final := by
    simpa [passAlone, sweepTenant, Prog.alone, AList.empty_union, dueEscalations] using hfinal
  have hdone : (sweepTenant catalog).wp Later (fun _ => True) (SweepDone catalog alerts) ∅
      (World.start alerts now) := sweepTenant_done (fun _ _ h => h) _
  exact ⟨final, hreturned, hdone.alone (Later.refl _) trivial hreturned⟩

-- The advances a pass commits are those it goes on to notify.
theorem SweepDone.mem_advancesOf {catalog : EscalationCatalog} {begunOn : Table Nat Alert}
    {world : AlertWorld} {writes : Table Nat Alert} {actions : List PendingEscalation}
    (h : SweepDone catalog begunOn world writes actions) {advance : Advance} :
    advance ∈ advancesOf catalog writes ↔
      ∃ action ∈ actions, advance = ⟨action.alertId, action.stepNumber, action.step⟩ := by
  have hrow : ∀ action ∈ actions, ∃ row, writes.lookup action.alertId = some row ∧
      (catalog.join row).bind (fun policy =>
        (policy.2[row.lastEscalatedStep.toNat]?).map fun step =>
          (⟨action.alertId, row.lastEscalatedStep.toNat, step⟩ : Advance)) =
        some ⟨action.alertId, action.stepNumber, action.step⟩ := by
    intro action haction
    obtain ⟨alert, steps, he⟩ := h.each action haction
    refine ⟨_, he.written, ?_⟩
    have hjoin : catalog.join { alert with lastEscalatedStep := (action.stepNumber : Int) } =
        some (action.monitorName, steps) := (catalog.join_congr rfl).trans he.policy
    rw [hjoin, Option.bind_some]
    simp [he.step]
  constructor
  · intro hadvance
    obtain ⟨⟨id, row⟩, hmem, he⟩ := List.mem_filterMap.mp hadvance
    have hwritten := Table.mem_rows.mp hmem
    obtain ⟨action, haction, rfl⟩ := h.covered id (Table.mem_of_lookup hwritten)
    obtain ⟨found, hfound, hadvanced⟩ := hrow action haction
    obtain rfl := Option.some.inj (hwritten.symm.trans hfound)
    exact ⟨action, haction, Option.some.inj (he.symm.trans hadvanced)⟩
  · rintro ⟨action, haction, rfl⟩
    obtain ⟨row, hwritten, hadvanced⟩ := hrow action haction
    exact List.mem_filterMap.mpr ⟨(action.alertId, row), Table.mem_rows.mpr hwritten, hadvanced⟩

-- The column counts the advances of its alert, and perhaps steps it had before.
structure EscalationState.Counted (state : EscalationState) : Prop where
  steps : ∀ id alert, state.alerts.lookup id = some alert → -1 ≤ alert.lastEscalatedStep
  counted : ∀ advance ∈ state.advanced, ∃ alert, state.alerts.lookup advance.alertId = some alert ∧
    (advance.stepNumber : Int) ≤ alert.lastEscalatedStep

-- A call of another service leaves the column as it is, and opens alerts with none
-- escalated.
theorem request_lastEscalatedStep (call : AlertCall) (hother : ∀ catalog, call ≠ .sweep catalog)
    (solo : Solo Nat Alert) (now : Nat) (alerts : Table Nat Alert) (id : Nat) (new : Alert)
    (hnew : ((((alertService texts).body call now).alone oneActivePerMonitor solo now ∅ alerts).table
      alerts).lookup id = some new) :
    new.lastEscalatedStep = ((alerts.lookup id).map Alert.lastEscalatedStep).getD (-1) := by
  have hdone : ((alertService texts).body call now).wp Later (fun _ => True)
      (CallDone call alerts now) ∅ (World.start alerts now) :=
    alertService_done (fun _ _ h => h) texts call (World.start alerts now)
  cases ho : ((alertService texts).body call now).alone oneActivePerMonitor solo now ∅ alerts with
  | returned reply writes =>
      rw [ho] at hnew
      have hcall : CallDone call alerts now (World.start alerts now) writes reply :=
        hdone.alone (Later.refl _) trivial ho
      exact ChangesOnly.lastEscalatedStep hcall.changes hother hnew
  | threw error =>
      rw [ho, Outcome.table] at hnew
      simp [hnew]
  | failed =>
      rw [ho, Outcome.table] at hnew
      simp [hnew]

theorem EscalationState.Counted.request {state : EscalationState} (h : state.Counted) (call : AlertCall)
    (hother : ∀ catalog, call ≠ .sweep catalog) (solo : Solo Nat Alert) (now : Nat) :
    (state.step texts (.request call hother solo now)).Counted := by
  have hlast := request_lastEscalatedStep texts call hother solo now state.alerts
  constructor
  · intro id new hnew
    rw [hlast id new hnew]
    cases hold : state.alerts.lookup id with
    | none => exact le_refl _
    | some old => exact h.steps id old hold
  · intro advance hadvance
    obtain ⟨old, hold, hcounts⟩ := h.counted advance hadvance
    obtain ⟨new, hnew⟩ := Option.isSome_iff_exists.mp (AList.lookup_isSome.mpr
      (Outcome.mem_table (Table.mem_of_lookup hold)
        (((alertService texts).body call now).alone oneActivePerMonitor solo now ∅ state.alerts)))
    refine ⟨new, hnew, ?_⟩
    rw [hlast _ new hnew, hold]
    exact hcounts

theorem EscalationState.step_sweep {state : EscalationState} (h : state.Counted)
    (catalog : EscalationCatalog) (templates : NotifyChannel → Option String)
    (fails : NotificationKey → Bool) (solo : Solo Nat Alert) (now : Nat) :
    let actions := dueEscalations catalog solo.order now state.alerts
    ∃ writes, SweepDone catalog state.alerts (World.start state.alerts now) writes actions ∧
      state.step texts (.sweep catalog templates fails solo now) =
        { alerts := writes ∪ state.alerts
          advanced := state.advanced ++ advancesOf catalog writes
          enqueued := state.enqueued ++ enqueueAll templates fails (notificationsOf actions) } := by
  obtain ⟨writes, hreturned, hdone⟩ := passAlone_returned catalog solo now state.alerts h.steps
  refine ⟨writes, hdone, ?_⟩
  simp only [EscalationState.step, hreturned]

-- A step that is due is the one after the last.
theorem stepNumber_of_mem {catalog : EscalationCatalog} {order : ScanOrder (Nat × Alert)} {now : Nat}
    {alerts : Table Nat Alert} {action : PendingEscalation}
    (h : action ∈ dueEscalations catalog order now alerts) : ∃ alert,
      alerts.lookup action.alertId = some alert ∧
      action.stepNumber = (alert.lastEscalatedStep + 1).toNat := by
  obtain ⟨⟨id, alert⟩, hrow, haction⟩ := List.mem_filterMap.mp h
  obtain ⟨hid, hnumber⟩ := escalationOf_eq_some haction
  have hmem := List.mem_filter.mp ((order.perm _).mem_iff.mp hrow)
  exact ⟨alert, hid ▸ Table.mem_rows.mp hmem.1, hnumber⟩

theorem EscalationState.Counted.sweep {state : EscalationState} (h : state.Counted)
    (catalog : EscalationCatalog) (templates : NotifyChannel → Option String)
    (fails : NotificationKey → Bool) (solo : Solo Nat Alert) (now : Nat) :
    (state.step texts (.sweep catalog templates fails solo now)).Counted := by
  obtain ⟨writes, hdone, hstep⟩ := state.step_sweep texts h catalog templates fails solo now
  rw [hstep]
  -- the row of an action is advanced to its step, and the others are as they were
  have hrow : ∀ id old, state.alerts.lookup id = some old → ∃ new,
      (writes ∪ state.alerts).lookup id = some new ∧ old.lastEscalatedStep ≤ new.lastEscalatedStep := by
    intro id old hold
    rw [Table.lookup_union]
    cases hw : writes.lookup id with
    | none => exact ⟨old, by rw [Option.none_or, hold], le_refl _⟩
    | some row =>
        obtain ⟨action, haction, rfl⟩ := hdone.covered id (Table.mem_of_lookup hw)
        obtain ⟨alert, hl, hnumber⟩ := stepNumber_of_mem haction
        obtain ⟨_, _, he⟩ := hdone.each action haction
        obtain rfl := Option.some.inj (hl.symm.trans hold)
        obtain rfl := Option.some.inj (hw.symm.trans he.written)
        refine ⟨_, rfl, ?_⟩
        dsimp only
        omega
  constructor
  · intro id new hnew
    have hmem : id ∈ state.alerts := by
      rcases AList.mem_union.mp (Table.mem_of_lookup hnew) with hw | hs
      · obtain ⟨action, haction, rfl⟩ := hdone.covered id hw
        obtain ⟨alert, hl, -⟩ := stepNumber_of_mem haction
        exact Table.mem_of_lookup hl
      · exact hs
    obtain ⟨old, hold⟩ := Option.isSome_iff_exists.mp (AList.lookup_isSome.mpr hmem)
    obtain ⟨found, hfound, hle⟩ := hrow id old hold
    obtain rfl := Option.some.inj (hnew.symm.trans hfound)
    exact le_trans (h.steps id old hold) hle
  · intro advance hadvance
    rcases List.mem_append.mp hadvance with hbefore | hnow
    · obtain ⟨old, hold, hcounts⟩ := h.counted advance hbefore
      obtain ⟨new, hnew, hle⟩ := hrow advance.alertId old hold
      exact ⟨new, hnew, le_trans hcounts hle⟩
    · obtain ⟨action, haction, rfl⟩ := hdone.mem_advancesOf.mp hnow
      obtain ⟨alert, steps, he⟩ := hdone.each action haction
      refine ⟨{ alert with lastEscalatedStep := (action.stepNumber : Int) }, ?_, Int.le_refl _⟩
      exact Table.lookup_union_own he.written _

theorem advanced_sweep {state : EscalationState} (h : state.Counted) (catalog : EscalationCatalog)
    (templates : NotifyChannel → Option String) (fails : NotificationKey → Bool)
    (solo : Solo Nat Alert) (now : Nat) (key : NotificationKey) :
    Advanced (state.step texts (.sweep catalog templates fails solo now)) key ↔ Advanced state key ∨
      ∃ notification ∈ notificationsOf (dueEscalations catalog solo.order now state.alerts),
        notification.key = key := by
  obtain ⟨writes, hdone, hstep⟩ := state.step_sweep texts h catalog templates fails solo now
  obtain ⟨alertId, stepNumber, index⟩ := key
  rw [hstep]
  simp only [Advanced, List.mem_append, or_and_right, exists_or]
  apply or_congr_right
  constructor
  · rintro ⟨advance, hadvance, rfl, rfl, hindex⟩
    obtain ⟨action, haction, rfl⟩ := hdone.mem_advancesOf.mp hadvance
    exact ⟨⟨action, action.step.notify[index], index⟩,
      mem_notificationsOf.mpr ⟨haction, List.getElem?_eq_getElem hindex⟩, rfl⟩
  · rintro ⟨notification, hnotification, he⟩
    obtain ⟨haction, htarget⟩ := mem_notificationsOf.mp hnotification
    simp only [EscalationNotification.key, Prod.mk.injEq] at he
    obtain ⟨rfl, rfl, rfl⟩ := he
    obtain ⟨hindex, -⟩ := List.getElem?_eq_some_iff.mp htarget
    exact ⟨_, hdone.mem_advancesOf.mpr ⟨notification.action, haction, rfl⟩, rfl, rfl, hindex⟩

theorem enqueued_sweep {state : EscalationState} (h : state.Counted) (catalog : EscalationCatalog)
    (templates : NotifyChannel → Option String) (fails : NotificationKey → Bool)
    (solo : Solo Nat Alert) (now : Nat) (key : NotificationKey) :
    Enqueued (state.step texts (.sweep catalog templates fails solo now)) key ↔ Enqueued state key ∨
      ∃ notification ∈ attempts (fun notification => fails notification.key)
        (notificationsOf (dueEscalations catalog solo.order now state.alerts)),
        notification.key = key := by
  obtain ⟨writes, -, hstep⟩ := state.step_sweep texts h catalog templates fails solo now
  rw [hstep]
  simp only [Enqueued, enqueueAll, List.mem_append, or_and_right, exists_or, List.mem_map]
  apply or_congr_right
  constructor
  · rintro ⟨_, ⟨notification, hnotification, rfl⟩, rfl⟩
    exact ⟨notification, hnotification, rfl⟩
  · rintro ⟨notification, hnotification, rfl⟩
    exact ⟨_, ⟨notification, hnotification, rfl⟩, rfl⟩

theorem not_advanced_of_mem {state : EscalationState} (h : state.Counted) {catalog : EscalationCatalog}
    {order : ScanOrder (Nat × Alert)} {now : Nat} {notification : EscalationNotification}
    (hmem : notification ∈ notificationsOf (dueEscalations catalog order now state.alerts)) :
    ¬ Advanced state notification.key := by
  rintro ⟨advance, hadvance, hid, hnumber, -⟩
  obtain ⟨alert, hl, hnext⟩ := stepNumber_of_mem (mem_notificationsOf.mp hmem).1
  obtain ⟨old, hold, hcounts⟩ := h.counted advance hadvance
  have hid : advance.alertId = notification.action.alertId := hid
  have hnumber : advance.stepNumber = notification.action.stepNumber := hnumber
  rw [hid, hl] at hold
  obtain rfl := Option.some.inj hold
  have hstep := h.steps _ alert hl
  omega

def escalationMarking : Marking (EscalationState.step texts) NotificationKey EscalationNotification where
  inv := EscalationState.Counted
  marked := Advanced
  attempted := Enqueued
  found state
    | .request .. => []
    | .sweep catalog _ _ solo now => notificationsOf (dueEscalations catalog solo.order now state.alerts)
  keyOf := EscalationNotification.key
  fails
    | .request .. => fun _ => false
    | .sweep _ _ fails _ _ => fun notification => fails notification.key
  keep state event h := by
    cases event with
    | request call hother solo now => exact h.request texts call hother solo now
    | sweep catalog templates fails solo now => exact h.sweep texts catalog templates fails solo now
  marks state event h key := by
    cases event with
    | request call hother solo now => simp [Advanced, EscalationState.step]
    | sweep catalog templates fails solo now =>
        exact advanced_sweep texts h catalog templates fails solo now key
  tries state event h key := by
    cases event with
    | request call hother solo now => simp [Enqueued, EscalationState.step, attempts]
    | sweep catalog templates fails solo now =>
        exact enqueued_sweep texts h catalog templates fails solo now key
  new state event h notification hmem := by
    cases event with
    | request call hother solo now => cases hmem
    | sweep catalog templates fails solo now => exact not_advanced_of_mem h hmem
  distinct state event h := by
    cases event with
    | request call hother solo now => exact List.nodup_nil
    | sweep catalog templates fails solo now =>
        obtain ⟨writes, hdone, -⟩ := state.step_sweep texts h catalog templates fails solo now
        exact nodup_notificationsOf hdone.nodup

end CloudOps.Monitoring
