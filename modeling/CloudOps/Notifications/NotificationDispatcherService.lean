import CloudOps.EventBus.EventBusService

namespace CloudOps.Notifications

open CloudOps.EventBus (DomainEventMessage)
open CloudOps.ReadCommitted (Table)

structure RenderedMessage where
  subject : String
  body : String
  html : Option String

structure NotificationAttachment where
  filename : String
  contentType : String
  base64 : String

-- `J` is the type of a jsonb value.
variable {J : Type}

structure SendInput (J : Type) where
  recipient : String
  message : RenderedMessage
  payload : J
  attachment : Option NotificationAttachment

inductive NotificationStatus where
  | queued
  | sent
  | failed
  deriving DecidableEq

structure Notification (J : Type) where
  tenantId : String
  channel : String
  recipient : String
  templateName : String
  payload : J
  status : NotificationStatus
  sentAt : Option Nat

structure EnqueueNotificationInput (J : Type) where
  tenantId : String
  channel : String
  recipient : String
  templateName : String
  payload : J

-- A channel sends through its transport, which may fail, or it is not implemented yet.
inductive NotificationChannel where
  | transport
  | stubChannel (channel : String)

def NotificationChannel.send : NotificationChannel → Option String → Except String Unit
  | transport, none => .ok ()
  | transport, some message => .error message
  | stubChannel channel, _ => .error
      s!"Notification channel \"{channel}\" is not implemented yet (Phase 2, per the architecture plan)"

def channels : List (String × NotificationChannel) :=
  [("email", .transport), ("slack", .transport), ("webhook", .transport), ("sms", .transport),
    ("voice", .transport), ("whatsapp", .stubChannel "whatsapp"), ("in_app", .stubChannel "in_app")]

-- The registered templates, and the fields the dispatcher reads of a jsonb value.
structure DispatcherEnvironment (J : Type) where
  templates : List (String × (J → RenderedMessage))
  notificationId : J → Option String
  attachment : J → Option NotificationAttachment

variable (env : DispatcherEnvironment J)

def renderTemplate (templateName : String) (payload : J) : Except String RenderedMessage :=
  match env.templates.lookup templateName with
  | none => .error s!"Unknown notification template: \"{templateName}\""
  | some renderer => .ok (renderer payload)

-- What the handler sends for a row, or the reason it marks it failed for.
def dispatch (notification : Notification J) (sendError : Option String) : Except String (SendInput J) :=
  let channel := notification.channel
  match channels.lookup channel with
  | none => .error s!"no channel implementation registered for \"{channel}\""
  | some channelImpl => do
      let message ← renderTemplate env notification.templateName notification.payload
      channelImpl.send sendError
      return {
        recipient := notification.recipient
        message := message
        payload := notification.payload
        attachment := env.attachment notification.payload }

-- The rows, and every send that has succeeded with the row it was for.
structure Outbox (J : Type) where
  notifications : Table String (Notification J)
  sends : List (String × SendInput J)

-- An event the bus hands over, what the transport answers if it is asked to send, and
-- whether the transaction of the handler commits. Where it does not, the bus keeps the
-- event pending.
structure Delivery (J : Type) where
  event : DomainEventMessage J
  sendError : Option String
  commits : Bool
  now : Nat

namespace Outbox

def empty : Outbox J := ⟨∅, []⟩

-- The row the event names, if its tenant sees it.
def requested (outbox : Outbox J) (event : DomainEventMessage J) : Option (String × Notification J) :=
  if event.eventType = some "notification.requested" then do
    let notificationId ← env.notificationId event.payload
    let notification ← outbox.notifications.lookup notificationId
    if event.tenantId = some notification.tenantId then some (notificationId, notification) else none
  else none

def record (outbox : Outbox J) (id : String) (input : SendInput J) : Outbox J :=
  { outbox with sends := outbox.sends ++ [(id, input)] }

def store (outbox : Outbox J) (commits : Bool) (id : String) (notification : Notification J) : Outbox J :=
  if commits then { outbox with notifications := outbox.notifications.insert id notification } else outbox

def enqueue (outbox : Outbox J) (id : String) (input : EnqueueNotificationInput J) : Outbox J :=
  if id ∈ outbox.notifications then outbox
  else outbox.store true id
    { tenantId := input.tenantId
      channel := input.channel
      recipient := input.recipient
      templateName := input.templateName
      payload := input.payload
      status := .queued
      sentAt := none }

-- The status the row has is not read.
def handleEvent (outbox : Outbox J) (delivery : Delivery J) : Outbox J :=
  match outbox.requested env delivery.event with
  | none => outbox
  | some (id, notification) =>
      match dispatch env notification delivery.sendError with
      | .ok input => (outbox.record id input).store delivery.commits id
          { notification with status := .sent, sentAt := some delivery.now }
      | .error _ => outbox.store delivery.commits id { notification with status := .failed }

end Outbox

inductive OutboxEvent (J : Type) where
  | enqueue (id : String) (input : EnqueueNotificationInput J)
  | deliver (delivery : Delivery J)

def Outbox.step (outbox : Outbox J) : OutboxEvent J → Outbox J
  | .enqueue id input => outbox.enqueue id input
  | .deliver delivery => outbox.handleEvent env delivery

end CloudOps.Notifications
