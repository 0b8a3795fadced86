import CloudOps.Notifications.NotificationDispatcherService

namespace CloudOps.Notifications

open CloudOps.EventBus (DomainEventMessage)
open CloudOps.ReadCommitted (Table)

variable {J : Type} {env : DispatcherEnvironment J}

def Outbox.sentTimes (outbox : Outbox J) (id : String) : Nat :=
  (outbox.sends.filter fun send => send.1 = id).length

-- The row says it is sent exactly if it has been, and that at most once.
def Notification.SentOnce (notification : Notification J) (times : Nat) : Prop :=
  times ≤ 1 ∧ (notification.status = .sent ↔ times = 1)

def Outbox.SentOnce (outbox : Outbox J) : Prop :=
  ∀ id notification, outbox.notifications.lookup id = some notification →
    notification.SentOnce (outbox.sentTimes id)

-- No delivery goes through for a notification that has been sent, and none that sends
-- one is rolled back.
def NoResend (env : DispatcherEnvironment J) (outbox : Outbox J) : OutboxEvent J → Prop
  | .enqueue .. => True
  | .deliver delivery =>
      match outbox.requested env delivery.event with
      | none => True
      | some (id, notification) =>
          match dispatch env notification delivery.sendError with
          | .ok _ => delivery.commits = true ∧ outbox.sentTimes id = 0
          | .error _ => delivery.commits = true → outbox.sentTimes id = 0

-- What every run keeps, sent once or not.
structure Outbox.Consistent (outbox : Outbox J) : Prop where
  known : ∀ id, outbox.sentTimes id ≠ 0 → id ∈ outbox.notifications
  sent : ∀ id notification, outbox.notifications.lookup id = some notification →
    notification.status = .sent → outbox.sentTimes id ≠ 0

section Row

variable {notification : Notification J} {times : Nat} (hsent : notification.status = .sent → times ≠ 0)
include hsent

theorem sentOnce_of_send (commits : Bool) (sentAt : Option Nat) :
    Notification.SentOnce (if commits = true then { notification with status := .sent, sentAt := sentAt }
      else notification) (times + 1) ↔
    notification.SentOnce times ∧ commits = true ∧ times = 0 := by
  unfold Notification.SentOnce
  by_cases hstatus : notification.status = .sent
  · have htimes := hsent hstatus
    cases commits with
    | true =>
        simp [hstatus]
        omega
    | false => simp [hstatus, htimes]
  · cases commits with
    | true =>
        simp [hstatus]
        omega
    | false => simp [hstatus]

theorem sentOnce_of_failure (commits : Bool) :
    Notification.SentOnce (if commits = true then { notification with status := .failed }
      else notification) times ↔
    notification.SentOnce times ∧ (commits = true → times = 0) := by
  unfold Notification.SentOnce
  by_cases hstatus : notification.status = .sent
  · have htimes := hsent hstatus
    cases commits with
    | true =>
        simp [hstatus]
        omega
    | false => simp [hstatus]
  · cases commits with
    | true =>
        simp [hstatus]
        omega
    | false => simp [hstatus]

end Row

namespace Outbox

variable {outbox : Outbox J} {id : String} {notification : Notification J}

theorem lookup_of_requested {event : DomainEventMessage J}
    (h : outbox.requested env event = some (id, notification)) :
    outbox.notifications.lookup id = some notification := by
  unfold requested at h
  split at h
  · obtain ⟨found, -, h⟩ := Option.bind_eq_some_iff.mp h
    obtain ⟨row, hrow, h⟩ := Option.bind_eq_some_iff.mp h
    split at h
    · obtain ⟨rfl, rfl⟩ := Prod.mk.inj (Option.some.inj h)
      exact hrow
    · cases h
  · cases h

theorem sentTimes_record (input : SendInput J) (other : String) :
    (outbox.record id input).sentTimes other = outbox.sentTimes other + if other = id then 1 else 0 := by
  by_cases hsame : other = id
  · simp [sentTimes, record, List.filter_append, hsame]
  · simp [sentTimes, record, List.filter_append, hsame, Ne.symm hsame]

theorem lookup_store (commits : Bool) (other : String) :
    (outbox.store commits id notification).notifications.lookup other =
      if other = id ∧ commits = true then some notification else outbox.notifications.lookup other := by
  unfold store
  cases commits with
  | false => simp
  | true => simp [Table.lookup_insert_eq]

theorem sentTimes_store (commits : Bool) :
    (outbox.store commits id notification).sentTimes = outbox.sentTimes := by
  unfold store
  split
  · rfl
  · rfl

-- One row at a time: a delivery leaves the others as they are, so only its own row
-- counts.
theorem sentOnce_store_iff {base : Outbox J} {row : Notification J} {commits : Bool} {condition : Prop}
    (hnotifications : base.notifications = outbox.notifications)
    (hothers : ∀ other, other ≠ id → base.sentTimes other = outbox.sentTimes other)
    (hlookup : outbox.notifications.lookup id = some notification)
    (hiff : (if commits = true then row else notification).SentOnce (base.sentTimes id) ↔
      notification.SentOnce (outbox.sentTimes id) ∧ condition) :
    (base.store commits id row).SentOnce ↔ outbox.SentOnce ∧ condition := by
  have hown : (base.store commits id row).notifications.lookup id =
      some (if commits = true then row else notification) := by
    rw [lookup_store, hnotifications, hlookup]
    cases commits <;> simp
  have hkept : ∀ other, other ≠ id →
      (base.store commits id row).notifications.lookup other = outbox.notifications.lookup other := by
    intro other hne
    rw [lookup_store, hnotifications, if_neg fun hsame => hne hsame.1]
  constructor
  · intro h
    have hrow := h id _ hown
    rw [sentTimes_store] at hrow
    refine ⟨fun other found hfound => ?_, (hiff.mp hrow).2⟩
    by_cases hsame : other = id
    · subst hsame
      obtain rfl := Option.some.inj (hlookup.symm.trans hfound)
      exact (hiff.mp hrow).1
    · have hother := h other found ((hkept other hsame).trans hfound)
      rwa [sentTimes_store, hothers other hsame] at hother
  · rintro ⟨h, hcondition⟩ other found hfound
    rw [sentTimes_store]
    by_cases hsame : other = id
    · subst hsame
      obtain rfl := Option.some.inj (hown.symm.trans hfound)
      exact hiff.mpr ⟨h other notification hlookup, hcondition⟩
    · rw [hothers other hsame]
      exact h other found ((hkept other hsame).symm.trans hfound)

theorem Consistent.store (h : outbox.Consistent) (hnotSent : notification.status = .sent → outbox.sentTimes id ≠ 0)
    (commits : Bool) : (outbox.store commits id notification).Consistent := by
  constructor
  · intro other hother
    rw [sentTimes_store] at hother
    rw [← AList.lookup_isSome, lookup_store]
    split
    · rfl
    · exact AList.lookup_isSome.mpr (h.known other hother)
  · intro other found hfound hsent
    rw [sentTimes_store]
    rw [lookup_store] at hfound
    split at hfound
    · rename_i hsame
      obtain rfl := Option.some.inj hfound
      exact hsame.1 ▸ hnotSent hsent
    · exact h.sent other found hfound hsent

theorem Consistent.record (h : outbox.Consistent) (hmem : id ∈ outbox.notifications)
    (input : SendInput J) : (outbox.record id input).Consistent := by
  constructor
  · intro other hother
    by_cases hsame : other = id
    · exact hsame ▸ hmem
    · rw [sentTimes_record, if_neg hsame] at hother
      exact h.known other hother
  · intro other found hfound hsent
    have hpos := h.sent other found hfound hsent
    rw [sentTimes_record]
    omega

theorem Consistent.step (h : outbox.Consistent) (event : OutboxEvent J) :
    (outbox.step env event).Consistent := by
  cases event with
  | enqueue id input =>
      simp only [Outbox.step, Outbox.enqueue]
      split
      · exact h
      · refine h.store (fun hsent => ?_) true
        cases hsent
  | deliver delivery =>
      simp only [Outbox.step, handleEvent]
      cases hrequested : outbox.requested env delivery.event with
      | none => exact h
      | some found =>
          obtain ⟨id, notification⟩ := found
          have hmem := Table.mem_of_lookup (lookup_of_requested hrequested)
          dsimp only
          cases dispatch env notification delivery.sendError with
          | ok input =>
              refine (h.record hmem input).store (fun _ => ?_) delivery.commits
              rw [sentTimes_record, if_pos rfl]
              omega
          | error reason =>
              refine h.store (fun hsent => ?_) delivery.commits
              cases hsent

theorem sentOnce_enqueue (h : outbox.Consistent) (id : String) (input : EnqueueNotificationInput J) :
    (outbox.enqueue id input).SentOnce ↔ outbox.SentOnce := by
  unfold Outbox.enqueue
  split
  · rfl
  · rename_i hnew
    have hnone : outbox.sentTimes id = 0 := by
      by_contra hsent
      exact hnew (h.known id hsent)
    simp only [SentOnce, lookup_store, sentTimes_store, and_true]
    constructor
    · intro hafter other found hfound
      have hne : other ≠ id := by
        rintro rfl
        exact hnew (Table.mem_of_lookup hfound)
      exact hafter other found (by rw [if_neg hne, hfound])
    · intro hbefore other found hfound
      split at hfound
      · rename_i hsame
        obtain rfl := Option.some.inj hfound
        rw [hsame, hnone]
        simp [Notification.SentOnce]
      · exact hbefore other found hfound

-- One delivery, row by row: it keeps the row's count right exactly if it does not go
-- through for a row that has been sent.
theorem sentOnce_step_iff (h : outbox.Consistent) (event : OutboxEvent J) :
    (outbox.step env event).SentOnce ↔ outbox.SentOnce ∧ NoResend env outbox event := by
  cases event with
  | enqueue id input =>
      rw [Outbox.step, sentOnce_enqueue h, NoResend, and_true]
  | deliver delivery =>
      simp only [Outbox.step, handleEvent, NoResend]
      cases hrequested : outbox.requested env delivery.event with
      | none => simp
      | some found =>
          obtain ⟨id, notification⟩ := found
          have hlookup := lookup_of_requested hrequested
          have hsent := h.sent id notification hlookup
          dsimp only
          cases dispatch env notification delivery.sendError with
          | ok input =>
              refine sentOnce_store_iff rfl (fun other hne => ?_) hlookup ?_
              · rw [sentTimes_record, if_neg hne, Nat.add_zero]
              · rw [sentTimes_record, if_pos rfl]
                exact sentOnce_of_send hsent delivery.commits (some delivery.now)
          | error reason =>
              refine sentOnce_store_iff rfl (fun _ _ => rfl) hlookup ?_
              exact sentOnce_of_failure hsent delivery.commits

end Outbox

-- At the end every row has been sent at most once, and says it is sent exactly if it
-- has been, in exactly the runs in which no delivery goes through for a row that has
-- been sent and none that sends is rolled back.
theorem sent_once_iff (env : DispatcherEnvironment J) (events : List (OutboxEvent J)) :
    (Runs.run (Outbox.step env) Outbox.empty events).SentOnce ↔
      Runs.AllSteps (Outbox.step env) (NoResend env) Outbox.empty events := by
  have hconsistent : (Outbox.empty : Outbox J).Consistent := by
    refine ⟨fun id hid => absurd rfl hid, fun id notification hlookup => ?_⟩
    simp [Outbox.empty] at hlookup
  have hstart : (Outbox.empty : Outbox J).SentOnce := by
    intro id notification hlookup
    simp [Outbox.empty] at hlookup
  have hkeep : ∀ (outbox : Outbox J) event, outbox.Consistent → (outbox.step env event).Consistent :=
    fun _ event h => h.step event
  have hiff := Runs.last_iff_allSteps events hconsistent hkeep
    (fun _ event h => Outbox.sentOnce_step_iff h event)
  rw [hiff, and_iff_right hstart]

-- One event twice, and a transport that works.
def testEnvironment : DispatcherEnvironment Unit where
  templates := [("sprint0.test_email", fun _ => ⟨"Cloud Ops Tool test notification", "", none⟩)]
  notificationId _ := some "n1"
  attachment _ := none

def requestedDelivery : OutboxEvent Unit :=
  .deliver ⟨⟨some "e1", some "t1", some "notification.requested", (), none⟩, none, true, 0⟩

def deliveredTwice : List (OutboxEvent Unit) :=
  [.enqueue "n1" ⟨"t1", "email", "ann@example.com", "sprint0.test_email", ()⟩, requestedDelivery,
    requestedDelivery]

theorem deliveredTwice_sends_twice :
    ¬ (Runs.run (Outbox.step testEnvironment) Outbox.empty deliveredTwice).SentOnce := by
  intro h
  obtain ⟨notification, hlookup⟩ := Option.isSome_iff_exists.mp
    (show ((Runs.run (Outbox.step testEnvironment) Outbox.empty deliveredTwice).notifications.lookup
      "n1").isSome from by decide +kernel)
  have honce := (h "n1" notification hlookup).1
  have htwice : (Runs.run (Outbox.step testEnvironment) Outbox.empty deliveredTwice).sentTimes "n1" = 2 := by
    decide +kernel
  omega

end CloudOps.Notifications
