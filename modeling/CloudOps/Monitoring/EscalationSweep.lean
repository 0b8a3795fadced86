import CloudOps.MarkThenDispatch
import CloudOps.Monitoring.AlertEvaluation

namespace CloudOps.Monitoring

open CloudOps.ReadCommitted
open CloudOps.MarkThenDispatch

inductive NotifyChannel where
  | email
  | slack
  | webhook
  | sms
  | whatsapp
  | voice
  | inApp
  deriving DecidableEq

structure NotifyTarget where
  channel : NotifyChannel
  recipient : String
  deriving DecidableEq

structure EscalationStep where
  delayMinutes : Nat
  notify : List NotifyTarget
  deriving DecidableEq

-- The rows the sweep joins an alert with: its rule's escalation policy (the
-- policy's steps) and the name of its monitor.
structure EscalationCatalog where
  escalationPolicyId : Nat → Option Nat
  steps : Nat → Option (List EscalationStep)
  monitorName : Nat → Option String

-- JOIN alert_rules, escalation_policies, monitors: none where one has no row.
def EscalationCatalog.join (catalog : EscalationCatalog) (alert : Alert) :
    Option (String × List EscalationStep) := do
  let ruleId ← alert.alertRuleId
  let policyId ← catalog.escalationPolicyId ruleId
  let steps ← catalog.steps policyId
  let name ← catalog.monitorName alert.monitorId
  return (name, steps)

structure PendingEscalation where
  alertId : Nat
  monitorName : String
  severity : Severity
  reasonText : String
  step : EscalationStep
  stepNumber : Nat
  deriving DecidableEq

-- The loop over the alerts the SELECT returned, with the actions found so far.
def escalateDue (catalog : EscalationCatalog) :
    List (Nat × Alert) → List PendingEscalation → AlertProg (List PendingEscalation)
  | [], actions => return actions
  | (id, alert) :: rest, actions =>
      match catalog.join alert with
      | none => escalateDue catalog rest actions
      | some (monitorName, steps) =>
          let nextIndex := alert.lastEscalatedStep + 1
          if nextIndex ≥ steps.length then escalateDue catalog rest actions
          else if nextIndex < 0 then .throw (.error "steps[nextIndex] is undefined")
          else match steps[nextIndex.toNat]? with
            | none => .throw (.error "steps[nextIndex] is undefined")
            | some nextStep => do
                let dueAt := alert.openedAt + nextStep.delayMinutes * 60000
                let now ← Prog.dateNow
                if now < dueAt then escalateDue catalog rest actions
                else
                  let _ ← Prog.update id fun row => { row with lastEscalatedStep := nextIndex }
                  escalateDue catalog rest (actions ++
                    [{ alertId := id, monitorName := monitorName, severity := alert.severity,
                       reasonText := alert.reasonText, step := nextStep,
                       stepNumber := nextIndex.toNat }])

theorem EscalationCatalog.join_congr {catalog : EscalationCatalog} {alert other : Alert}
    (h : other.identity = alert.identity) : catalog.join other = catalog.join alert := by
  simp only [Alert.identity, Prod.mk.injEq] at h
  simp only [join, h.1, h.2.1]

-- EscalationSweepService.sweepTenant up to its commit; what it returns is what it
-- goes on to notify.
def sweepTenant (catalog : EscalationCatalog) : AlertProg (List PendingEscalation) := do
  let dueAlerts ← Prog.query fun _ alert => alert.isActive && (catalog.join alert).isSome
  escalateDue catalog dueAlerts []

def Severity.text : Severity → String
  | info => "info"
  | warning => "warning"
  | critical => "critical"

-- [A-Z_] and [A-Z0-9_]
def startsName (c : Char) : Bool := c.isUpper || c == '_'

def continuesName (c : Char) : Bool := startsName c || c.isDigit

-- What stands in place of a $ and the name after it. A $ without a name is no token.
def tokenText (values : List (String × String)) (name : List Char) : List Char :=
  match values.lookup (String.ofList name) with
  | some value => if name.isEmpty then ['$'] else value.toList
  | none => '$' :: name

-- The scan of the body for tokens, with the name that a $ has begun.
def renderFrom (values : List (String × String)) : Option (List Char) → List Char → List Char
  | none, [] => []
  | some name, [] => tokenText values name
  | none, c :: rest =>
      if c = '$' then renderFrom values (some []) rest else c :: renderFrom values none rest
  | some name, c :: rest =>
      if startsName c || (continuesName c && !name.isEmpty) then
        renderFrom values (some (name ++ [c])) rest
      else if c = '$' then tokenText values name ++ renderFrom values (some []) rest
      else tokenText values name ++ c :: renderFrom values none rest

def renderNotificationTemplate (body : String) (values : List (String × String)) : String :=
  String.ofList (renderFrom values none body.toList)

def DEFAULT_BODY : String :=
  "Alert escalation, step $STEP_NUMBER: $MONITOR_NAME is $SEVERITY. $REASON"

-- `templates` holds the bodies of the tenant's default templates for alert.escalated.
def renderBody (templates : NotifyChannel → Option String) (channel : NotifyChannel)
    (action : PendingEscalation) : String :=
  renderNotificationTemplate ((templates channel).getD DEFAULT_BODY)
    [("MONITOR_NAME", action.monitorName), ("SEVERITY", action.severity.text),
     ("REASON", action.reasonText), ("STEP_NUMBER", toString (action.stepNumber + 1))]

example : renderNotificationTemplate "$A costs $5, $A_B and $" [("A", "it")] =
    "it costs $5, $A_B and $" := by decide

structure EscalationInput where
  channel : NotifyChannel
  recipient : String
  templateName : String
  subject : String
  body : String
  deriving DecidableEq

-- One turn of the inner loop: a target of the step, and its place among them.
structure EscalationNotification where
  action : PendingEscalation
  target : NotifyTarget
  index : Nat
  deriving DecidableEq

abbrev NotificationKey := Nat × Nat × Nat

def EscalationNotification.key (notification : EscalationNotification) : NotificationKey :=
  (notification.action.alertId, notification.action.stepNumber, notification.index)

def EscalationNotification.input (templates : NotifyChannel → Option String)
    (notification : EscalationNotification) : EscalationInput where
  channel := notification.target.channel
  recipient := notification.target.recipient
  templateName := "monitoring.escalation"
  subject := s!"Alert escalation: {notification.action.monitorName}"
  body := renderBody templates notification.target.channel notification.action

-- The turns of the two loops, one after the other.
def notificationsOf (actions : List PendingEscalation) : List EscalationNotification :=
  actions.flatMap fun action => action.step.notify.zipIdx.map fun target => ⟨action, target.1, target.2⟩

-- A call of notifications.enqueue, and whether it returned.
structure EnqueueCall where
  key : NotificationKey
  input : EscalationInput
  returned : Bool
  deriving DecidableEq

-- An exception of one call ends both loops.
def enqueueAll (templates : NotifyChannel → Option String) (fails : NotificationKey → Bool)
    (notifications : List EscalationNotification) : List EnqueueCall :=
  (attempts (fun notification => fails notification.key) notifications).map fun notification =>
    ⟨notification.key, notification.input templates, !fails notification.key⟩

theorem mem_notificationsOf {actions : List PendingEscalation} {notification : EscalationNotification} :
    notification ∈ notificationsOf actions ↔ notification.action ∈ actions ∧
      notification.action.step.notify[notification.index]? = some notification.target := by
  obtain ⟨action, target, index⟩ := notification
  simp only [notificationsOf, List.mem_flatMap, List.mem_map, EscalationNotification.mk.injEq]
  constructor
  · rintro ⟨_, haction, ⟨_, _⟩, htarget, rfl, rfl, rfl⟩
    exact ⟨haction, List.mem_zipIdx_iff_getElem?.mp htarget⟩
  · rintro ⟨haction, htarget⟩
    exact ⟨action, haction, (target, index), List.mem_zipIdx_iff_getElem?.mpr htarget, rfl, rfl, rfl⟩

-- Each target of each alert's step is notified once.
theorem nodup_notificationsOf {actions : List PendingEscalation}
    (h : (actions.map PendingEscalation.alertId).Nodup) :
    ((notificationsOf actions).map EscalationNotification.key).Nodup := by
  induction actions with
  | nil => exact List.nodup_nil
  | cons action rest ih =>
      obtain ⟨haction, hrest⟩ := List.nodup_cons.mp h
      have hsplit : (notificationsOf (action :: rest)).map EscalationNotification.key =
          (action.step.notify.zipIdx.map fun target => (action.alertId, action.stepNumber, target.2)) ++
            (notificationsOf rest).map EscalationNotification.key := by
        simp only [notificationsOf, List.flatMap_cons, List.map_append, List.map_map]
        rfl
      rw [hsplit, List.nodup_append]
      refine ⟨?_, ih hrest, ?_⟩
      · have hindices : (action.step.notify.zipIdx.map Prod.snd).Nodup := by
          rw [List.zipIdx_map_snd]
          exact List.nodup_range' 1
        have hmap := hindices.map
          (f := fun index => (action.alertId, action.stepNumber, index)) (fun _ _ he => by simpa using he)
        rwa [List.map_map] at hmap
      · rintro key hfirst _ hlater rfl
        obtain ⟨target, -, rfl⟩ := List.mem_map.mp hfirst
        obtain ⟨notification, hnotification, he⟩ := List.mem_map.mp hlater
        have hid : notification.action.alertId = action.alertId := congrArg Prod.fst he
        exact haction (hid ▸ List.mem_map_of_mem (mem_notificationsOf.mp hnotification).1)

end CloudOps.Monitoring
