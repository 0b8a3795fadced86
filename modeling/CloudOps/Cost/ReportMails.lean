import CloudOps.Cost.ScheduledReports
import CloudOps.Runs

namespace CloudOps.Cost

open CloudOps.Effects CloudOps.Periods
open CloudOps.ReadCommitted (Table)

-- Who a list of calls mails: the loop ends at the first that throws.
def mailed : List (String × EnqueueOutcome) → List String
  | (recipient, .enqueued) :: rest => recipient :: mailed rest
  | (recipient, .unanswered _) :: _ => [recipient]
  | (_, .notInserted _) :: _ | (_, .notPublished _) :: _ | [] => []

def RunFaults.mailed (faults : RunFaults) (report : ScheduledReport) : List String :=
  match render faults.generator report with
  | .error _ => []
  | .ok _ => Cost.mailed (faults.attempts report)

-- A run that mails anyone comes when nobody has been mailed since the report's last
-- advance, and mails nobody twice itself.
def MailsOnce (room : ReportRoom) : ReportEvent → Prop
  | .sweepTenant sweep => sweep.selected = .ok () → ∀ id report, room.reports.lookup id = some report →
      report.isDue sweep.tenantId sweep.selectedAt = true → (sweep.faults id).mailed report = [] ∨
        since id room.log = [] ∧ ((sweep.faults id).mailed report).Nodup
  | .create .. | .remove .. => True

def ReportRoom.recipientsOf (room : ReportRoom) (id : Nat) : Option (List String) :=
  (room.reports.lookup id).map ScheduledReport.recipients

-- Whoever has been mailed since the last advance, the first recipient has.
def FirstMailed (room : ReportRoom) : Prop :=
  ∀ id recipients, room.recipientsOf id = some recipients →
    since id room.log = [] ∨ ∃ first, recipients.head? = some first ∧ first ∈ since id room.log

section Run

variable {faults : RunFaults} {id : Nat} {report : ScheduledReport} {room after : ReportRoom}

theorem mailed_prefix (attempts : List (String × EnqueueOutcome)) : mailed attempts <+: attempts.map Prod.fst := by
  induction attempts with
  | nil => exact List.nil_prefix
  | cons attempt rest ih =>
      obtain ⟨recipient, outcome⟩ := attempt
      cases outcome with
      | enqueued => exact (List.prefix_cons_inj recipient).mpr ih
      | unanswered error => exact (List.prefix_cons_inj recipient).mpr List.nil_prefix
      | notInserted error | notPublished error => exact List.nil_prefix

theorem RunFaults.mailed_prefix (faults : RunFaults) (report : ScheduledReport) :
    faults.mailed report <+: report.recipients := by
  unfold RunFaults.mailed
  split
  · exact List.nil_prefix
  · have hprefix := Cost.mailed_prefix (faults.attempts report)
    have hrecipients : (faults.attempts report).map Prod.fst = report.recipients := by
      rw [RunFaults.attempts, List.mapIdx_eq_zipIdx_map, List.map_map]
      exact List.zipIdx_map_fst 0 report.recipients
    rwa [hrecipients] at hprefix

-- What the loop over the recipients leaves, whether it ends or throws.
theorem exec_enqueue_all (id : Nat) (mailOf : String → Notifications.EnqueueNotificationInput ReportPayload)
    (hmailOf : ∀ recipient, (mailOf recipient).recipient = recipient)
    (attempts : List (String × EnqueueOutcome)) (room : ReportRoom) :
    (exec (forEach (fun attempt => enqueue id (mailOf attempt.1) attempt.2) attempts) room).2.log =
        room.log ++ (mailed attempts).map (.item id) ∧
      (exec (forEach (fun attempt => enqueue id (mailOf attempt.1) attempt.2) attempts) room).2.reports =
        room.reports := by
  induction attempts generalizing room with
  | nil => exact ⟨(List.append_nil _).symm, rfl⟩
  | cons attempt rest ih =>
      obtain ⟨recipient, outcome⟩ := attempt
      cases outcome with
      | enqueued =>
          rw [exec_forEach_cons_ok rest (exec_modify _)]
          obtain ⟨hlog, hreports⟩ := ih ((room.queue (mailOf recipient)).mail id (mailOf recipient).recipient)
          refine ⟨?_, hreports⟩
          rw [hlog, hmailOf]
          exact List.append_assoc _ _ _
      | unanswered error =>
          rw [exec_forEach_cons_error rest (exec_modify_bind _)]
          rw [hmailOf]
          exact ⟨rfl, rfl⟩
      | notInserted error =>
          have hthrow : exec (enqueue id (mailOf recipient) (.notInserted error)) room = (.error error, room) := rfl
          rw [exec_forEach_cons_error rest hthrow]
          exact ⟨(List.append_nil _).symm, rfl⟩
      | notPublished error =>
          rw [exec_forEach_cons_error rest (exec_modify_bind _)]
          exact ⟨(List.append_nil _).symm, rfl⟩

-- What a run of a report leaves: its mails, the advance of it or not, and all
-- recipients as they were.
structure Ran (id : Nat) (mails : List String) (room after : ReportRoom) : Prop where
  log : after.log = room.log ++ mails.map (.item id) ∨ after.log = room.log ++ mails.map (.item id) ++ [.mark id]
  recipientsOf : ∀ other, after.recipientsOf other = room.recipientsOf other

theorem recipientsOf_advance (room : ReportRoom) (id now other : Nat) :
    (room.advance id now).recipientsOf other = room.recipientsOf other := by
  unfold ReportRoom.advance ReportRoom.recipientsOf
  cases hrow : room.reports.lookup id with
  | none => rfl
  | some report =>
      simp only [Table.lookup_insert_eq]
      split
      · rename_i hsame
        rw [hsame, hrow]
        rfl
      · rfl

theorem log_advance (room : ReportRoom) (id now : Nat) :
    (room.advance id now).log = room.log ∨ (room.advance id now).log = room.log ++ [.mark id] := by
  unfold ReportRoom.advance
  cases room.reports.lookup id with
  | none => exact .inl rfl
  | some report => exact .inr rfl

theorem exec_runAndDeliver (faults : RunFaults) (id : Nat) (report : ScheduledReport) (room : ReportRoom) :
    Ran id (faults.mailed report) room (exec (runAndDeliver faults id report) room).2 := by
  unfold runAndDeliver RunFaults.mailed
  cases render faults.generator report with
  | error error =>
      rw [exec_throw]
      exact ⟨.inl (List.append_nil _).symm, fun _ => rfl⟩
  | ok file =>
      dsimp only
      obtain ⟨hlog, hreports⟩ := exec_enqueue_all id (reportMail faults.generator report file)
        (fun _ => rfl) (faults.attempts report) room
      have hrecipients : ∀ other, ReportRoom.recipientsOf _ other = room.recipientsOf other := fun other => by
        unfold ReportRoom.recipientsOf
        rw [hreports]
      rcases hexec : exec (forEach (fun attempt =>
        enqueue id (reportMail faults.generator report file attempt.1) attempt.2) (faults.attempts report)) room
        with ⟨result, queued⟩
      rw [hexec] at hlog hrecipients
      cases result with
      | error error =>
          rw [exec_bind_error hexec]
          exact ⟨.inl hlog, hrecipients⟩
      | ok =>
          rw [exec_bind_ok hexec]
          cases faults.updated with
          | error error => exact ⟨.inl hlog, hrecipients⟩
          | ok =>
              refine ⟨?_, fun other => (recipientsOf_advance queued id faults.now other).trans (hrecipients other)⟩
              rw [← hlog]
              exact log_advance queued id faults.now

end Run

section Sweep

variable {id other : Nat} {mails : List String} {report : ScheduledReport}
  {room after : ReportRoom} {sweep : TenantSweep}

theorem Ran.since_other (h : Ran id mails room after) (hne : id ≠ other) :
    since other after.log = since other room.log := by
  have hitems : since other (room.log ++ mails.map (.item id)) = since other room.log := by
    rw [since_append_items, if_neg hne]
  rcases h.log with hlog | hlog
  · rw [hlog, hitems]
  · rw [hlog, since_append_singleton, Entry.add, if_neg hne, hitems]

theorem Ran.since_self (h : Ran id mails room after) :
    since id after.log = [] ∨ since id after.log = since id room.log ++ mails := by
  rcases h.log with hlog | hlog
  · rw [hlog, since_append_items, if_pos rfl]
    exact .inr rfl
  · rw [hlog, since_append_singleton, Entry.add, if_pos rfl]
    exact .inl rfl

theorem Ran.oncePerPeriod_iff (h : Ran id mails room after) :
    OncePerPeriod after.log ↔ OncePerPeriod room.log ∧ (since id room.log ++ mails).Nodup := by
  rcases h.log with hlog | hlog
  · rw [hlog, oncePerPeriod_append_items]
  · rw [hlog, oncePerPeriod_append_mark, oncePerPeriod_append_items]

theorem Ran.firstMailed (h : Ran id mails room after) (hfirst : FirstMailed room)
    (hmails : ∀ recipients, room.recipientsOf id = some recipients → mails <+: recipients) :
    FirstMailed after := by
  intro other recipients hrecipients
  rw [h.recipientsOf] at hrecipients
  by_cases hsame : id = other
  · subst hsame
    rcases h.since_self with hnone | hmore
    · exact .inl hnone
    rw [hmore]
    rcases hfirst id recipients hrecipients with hnone | ⟨first, hhead, hmem⟩
    · rw [hnone, List.nil_append]
      cases mails with
      | nil => exact .inl rfl
      | cons first rest =>
          obtain ⟨others, hothers⟩ := hmails recipients hrecipients
          exact .inr ⟨first, by rw [← hothers]; rfl, List.mem_cons_self⟩
    · exact .inr ⟨first, hhead, List.mem_append_left _ hmem⟩
  · rw [h.since_other hsame]
    exact hfirst other recipients hrecipients

theorem exec_runDue_cons (sweep : TenantSweep) (row : Nat × ScheduledReport) (rest : List (Nat × ScheduledReport))
    (room : ReportRoom) : exec (sweep.runDue (row :: rest)) room =
      exec (sweep.runDue rest) (exec (runAndDeliver (sweep.faults row.1) row.1 row.2) room).2 :=
  exec_forEach_cons_ok rest (exec_caught _)

-- The rows a loop has before it, as the room has them.
def RowsOf (room : ReportRoom) (rows : List (Nat × ScheduledReport)) : Prop :=
  ∀ row ∈ rows, room.recipientsOf row.1 = some row.2.recipients

theorem firstMailed_runDue (rows : List (Nat × ScheduledReport)) (hrows : RowsOf room rows)
    (hfirst : FirstMailed room) : FirstMailed (exec (sweep.runDue rows) room).2 := by
  induction rows generalizing room with
  | nil => exact hfirst
  | cons row rest ih =>
      obtain ⟨hrow, hrest⟩ := List.forall_mem_cons.mp hrows
      rw [exec_runDue_cons]
      have hran := exec_runAndDeliver (sweep.faults row.1) row.1 row.2 room
      refine ih (fun item hitem => (hran.recipientsOf item.1).trans (hrest item hitem)) (hran.firstMailed hfirst ?_)
      intro recipients hrecipients
      rw [← Option.some.inj (hrow.symm.trans hrecipients)]
      exact RunFaults.mailed_prefix _ _

-- A loop mails no one twice exactly if none of its runs does, each seen from where the
-- loop begins: they are of different reports.
theorem oncePerPeriod_runDue (rows : List (Nat × ScheduledReport)) (hdistinct : (rows.map Prod.fst).Nodup) :
    OncePerPeriod (exec (sweep.runDue rows) room).2.log ↔ OncePerPeriod room.log ∧
      ∀ row ∈ rows, (since row.1 room.log ++ (sweep.faults row.1).mailed row.2).Nodup := by
  induction rows generalizing room with
  | nil => exact (and_iff_left fun row hrow => absurd hrow List.not_mem_nil).symm
  | cons row rest ih =>
      obtain ⟨hnew, hdistinct⟩ := List.nodup_cons.mp hdistinct
      rw [exec_runDue_cons]
      have hran := exec_runAndDeliver (sweep.faults row.1) row.1 row.2 room
      rw [ih hdistinct, hran.oncePerPeriod_iff, List.forall_mem_cons, and_assoc]
      refine and_congr_right fun _ => and_congr_right fun _ => forall₂_congr fun item hitem => ?_
      have hne : row.1 ≠ item.1 := fun hsame => hnew (hsame ▸ List.mem_map_of_mem hitem)
      rw [hran.since_other hne]

theorem mem_due {row : Nat × ScheduledReport} : row ∈ sweep.due room ↔
    room.reports.lookup row.1 = some row.2 ∧ row.2.isDue sweep.tenantId sweep.selectedAt = true := by
  rw [TenantSweep.due, List.mem_filter, (sweep.order.perm _).mem_iff, Table.mem_rows]

theorem nodup_due (sweep : TenantSweep) (room : ReportRoom) : ((sweep.due room).map Prod.fst).Nodup := by
  refine List.Nodup.sublist (List.filter_sublist.map Prod.fst) ?_
  exact ((sweep.order.perm _).map Prod.fst).nodup_iff.mpr (Table.nodup_rows_ids _)

theorem rowsOf_due (sweep : TenantSweep) (room : ReportRoom) : RowsOf room (sweep.due room) := by
  intro row hrow
  unfold ReportRoom.recipientsOf
  rw [(mem_due.mp hrow).1]
  rfl

-- Seen from a room in which the first recipient always is among those mailed, mailing
-- any more means mailing that one again.
theorem nodup_since_append_iff (honce : OncePerPeriod room.log) (hfirst : FirstMailed room)
    (hrow : room.reports.lookup id = some report) (faults : RunFaults) :
    (since id room.log ++ faults.mailed report).Nodup ↔
      faults.mailed report = [] ∨ since id room.log = [] ∧ (faults.mailed report).Nodup := by
  have hrecipients : room.recipientsOf id = some report.recipients := by
    unfold ReportRoom.recipientsOf
    rw [hrow]
    rfl
  rcases hfirst id _ hrecipients with hnone | ⟨first, hhead, hmem⟩
  · simp only [hnone, List.nil_append, true_and]
    refine ⟨.inr, ?_⟩
    rintro (hnil | hnodup)
    · rw [hnil]
      exact List.nodup_nil
    · exact hnodup
  · have hsome : since id room.log ≠ [] := List.ne_nil_of_mem hmem
    simp only [hsome, false_and, or_false]
    cases hmailed : faults.mailed report with
    | nil =>
        rw [List.append_nil]
        exact iff_of_true (honce.nodup_since id) rfl
    | cons recipient rest =>
        refine iff_of_false (fun hnodup => ?_) (List.cons_ne_nil _ _)
        obtain ⟨others, hothers⟩ := faults.mailed_prefix report
        rw [hmailed] at hothers
        rw [← hothers] at hhead
        obtain rfl : recipient = first := Option.some.inj hhead
        exact (List.nodup_append.mp hnodup).2.2 recipient hmem recipient List.mem_cons_self rfl

theorem since_eq_nil_of_isFresh (hfresh : room.isFresh id = true) : since id room.log = [] := by
  simp only [ReportRoom.isFresh, Bool.and_eq_true, List.all_eq_true, bne_iff_ne] at hfresh
  exact since_eq_nil hfresh.2

theorem step_firstMailed (hfirst : FirstMailed room) (event : ReportEvent) : FirstMailed (room.step event) := by
  cases event with
  | sweepTenant sweep =>
      simp only [ReportRoom.step, Cost.sweepTenant]
      cases sweep.selected with
      | error error => exact hfirst
      | ok => exact firstMailed_runDue _ (rowsOf_due sweep room) hfirst
  | create id tenantId dto now =>
      simp only [ReportRoom.step]
      split
      · rename_i hfresh
        intro other recipients hrecipients
        unfold ReportRoom.recipientsOf at hrecipients
        dsimp only at hrecipients
        rw [Table.lookup_insert_eq] at hrecipients
        split at hrecipients
        · rename_i hsame
          subst hsame
          have hnone : since other room.log = [] := since_eq_nil_of_isFresh hfresh
          exact .inl hnone
        · exact hfirst other recipients hrecipients
      · exact hfirst
  | remove tenantId id =>
      simp only [ReportRoom.step]
      split
      · exact hfirst
      · split
        · intro other recipients hrecipients
          refine hfirst other recipients ?_
          unfold ReportRoom.recipientsOf at hrecipients ⊢
          dsimp only at hrecipients
          by_cases hsame : other = id
          · subst hsame
            rw [AList.lookup_erase] at hrecipients
            cases hrecipients
          · rwa [AList.lookup_erase_ne hsame] at hrecipients
        · exact hfirst

theorem oncePerPeriod_step_iff (honce : OncePerPeriod room.log) (hfirst : FirstMailed room) (event : ReportEvent) :
    OncePerPeriod (room.step event).log ↔ MailsOnce room event := by
  cases event with
  | sweepTenant sweep =>
      simp only [ReportRoom.step, Cost.sweepTenant, MailsOnce]
      cases sweep.selected with
      | error error =>
          refine iff_of_true honce fun hselected => ?_
          cases hselected
      | ok =>
          rw [oncePerPeriod_runDue _ (nodup_due sweep room), and_iff_right honce]
          constructor
          · intro hruns _ id report hrow hdue
            exact (nodup_since_append_iff honce hfirst hrow _).mp (hruns (id, report) (mem_due.mpr ⟨hrow, hdue⟩))
          · rintro hmeets ⟨id, report⟩ hmem
            obtain ⟨hrow, hdue⟩ := mem_due.mp hmem
            exact (nodup_since_append_iff honce hfirst hrow _).mpr (hmeets rfl id report hrow hdue)
  | create id tenantId dto now =>
      simp only [ReportRoom.step]
      split <;> exact iff_of_true honce trivial
  | remove tenantId id =>
      simp only [ReportRoom.step]
      split
      · exact iff_of_true honce trivial
      · split <;> exact iff_of_true honce trivial

end Sweep

-- No recipient is mailed twice between two advances, in exactly the runs in which no
-- sweep mails anyone over again for a report it has mailed before and not advanced.
theorem mailed_once_iff (events : List ReportEvent) :
    Runs.Always ReportRoom.step (fun room => OncePerPeriod room.log) .empty events ↔
      Runs.AllSteps ReportRoom.step MailsOnce .empty events := by
  let inv : ReportRoom → Prop := fun room => OncePerPeriod room.log ∧ FirstMailed room
  have hstart : inv .empty := ⟨oncePerPeriod_nil, fun _ _ hnone => nomatch hnone⟩
  refine Runs.always_iff_allSteps events hstart (fun _ h => h.1) ?_ ?_
  · intro room event h hmeets
    exact ⟨(oncePerPeriod_step_iff h.1 h.2 event).mpr hmeets, step_firstMailed h.2 event⟩
  · intro room event h hafter
    exact (oncePerPeriod_step_iff h.1 h.2 event).mp hafter

def plainGenerator : ReportGenerator where
  toCsv _ _ _ := .ok ByteArray.empty
  toPdf _ _ _ := .ok ByteArray.empty
  toBase64 _ := ""

-- The call for the second recipient fails.
def secondFails (time : Nat) : TenantSweep where
  tenantId := "t"
  selectedAt := time
  order := .stored _
  selected := .ok ()
  faults _ :=
    { generator := plainGenerator
      enqueued := fun position => if position = 1 then .notInserted (.error "Connection terminated") else .enqueued
      now := time
      updated := .ok () }

def twoRecipients : CreateScheduledReportDto :=
  ⟨"Costs", "cost_dashboard", none, .csv, .daily, ["a@example.com", "b@example.com"]⟩

theorem firstRecipient_mailed_twice :
    ¬ Runs.Always ReportRoom.step (fun room => OncePerPeriod room.log) .empty
      [.create 1 "t" twoRecipients 0, .sweepTenant (secondFails msPerDay),
        .sweepTenant (secondFails (msPerDay + 3600000))] := by
  intro h
  let last := Runs.run ReportRoom.step .empty [.create 1 "t" twoRecipients 0, .sweepTenant (secondFails msPerDay),
    .sweepTenant (secondFails (msPerDay + 3600000))]
  have hlog : last.log = [.item 1 "a@example.com", .item 1 "a@example.com"] := by decide +kernel
  have honce := h.last.nodup_since 1
  rw [show Runs.run ReportRoom.step .empty _ = last from rfl, hlog] at honce
  exact absurd honce (by decide)

end CloudOps.Cost
