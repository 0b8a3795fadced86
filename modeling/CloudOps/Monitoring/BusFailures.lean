import CloudOps.Monitoring.MonitorScheduler
import Mathlib.Data.List.TakeWhile

namespace CloudOps.Monitoring.Scheduler

open CloudOps.Effects

-- What a pass has done between two points of it.
structure Advances (before after : PassLog) (evaluated : List (Nat × CheckResult)) (created requested : List Nat) :
    Prop where
  recorded : after.recorded = before.recorded
  evaluated : after.evaluated = before.evaluated ++ evaluated
  created : after.created = before.created ++ created
  requested : after.ticketRequests.map Prod.fst = before.ticketRequests.map Prod.fst ++ requested

theorem Advances.refl (log : PassLog) : Advances log log [] [] [] := by
  constructor <;> simp

theorem Advances.trans {first second third : PassLog} {evaluated evaluated' : List (Nat × CheckResult)}
    {created requested created' requested' : List Nat} (h : Advances first second evaluated created requested)
    (hnext : Advances second third evaluated' created' requested') :
    Advances first third (evaluated ++ evaluated') (created ++ created') (requested ++ requested') where
  recorded := hnext.recorded.trans h.recorded
  evaluated := by rw [hnext.evaluated, h.evaluated, List.append_assoc]
  created := by rw [hnext.created, h.created, List.append_assoc]
  requested := by rw [hnext.requested, h.requested, List.append_assoc]

def PublishOutcome.isPublished : PublishOutcome → Bool
  | published => true
  | notRecorded _ | notDelivered _ => false

-- The alert the evaluation of an entry opens, if it does.
def EntryFaults.createdAlert (faults : EntryFaults) : Option Nat :=
  match faults.evaluation with
  | .ok (.created alertId _) => some alertId
  | _ => none

def EntryFaults.requestedTicket (faults : EntryFaults) : Option Nat :=
  faults.createdAlert.filter fun _ => faults.created.isPublished

-- The publications of the entry's turn succeed.
def EntryFaults.busWorks (faults : EntryFaults) : Bool :=
  faults.checked.isPublished && (faults.createdAlert.isNone || faults.created.isPublished)

theorem exec_publish (event : DomainEvent) (outcome : PublishOutcome) (log : PassLog) : ∃ after,
    (outcome.isPublished = true ∧ exec (publish event outcome) log = (.ok (), after) ∨
      outcome.isPublished = false ∧ ∃ error, exec (publish event outcome) log = (.error error, after)) ∧
    Advances log after [] [] [] := by
  cases outcome with
  | published => exact ⟨_, .inl ⟨rfl, rfl⟩, ⟨rfl, by simp, by simp, by simp⟩⟩
  | notRecorded error => exact ⟨log, .inr ⟨rfl, error, rfl⟩, .refl log⟩
  | notDelivered error => exact ⟨_, .inr ⟨rfl, error, rfl⟩, ⟨rfl, by simp, by simp, by simp⟩⟩

theorem exec_linkTicket (monitor : DueMonitor) (alertId : Nat) (reasonText : String) (faults : EntryFaults)
    (log : PassLog) : Advances log (exec (linkTicket monitor alertId reasonText faults) log).2 [] [] [alertId] := by
  unfold linkTicket
  rw [exec_modify_bind]
  cases faults.ticket with
  | none => exact ⟨rfl, by simp [exec_pure], by simp [exec_pure], by simp [exec_pure]⟩
  | some ticketId =>
      cases faults.linked with
      | error error => exact ⟨rfl, by simp [exec_throw], by simp [exec_throw], by simp [exec_throw]⟩
      | ok => exact ⟨rfl, by simp [exec_pure], by simp [exec_pure], by simp [exec_pure]⟩

theorem exec_postNote (ticketId : Nat) (body : String) (log : PassLog) :
    Advances log (exec (postNote ticketId body) log).2 [] [] [] :=
  ⟨rfl, (List.append_nil _).symm, (List.append_nil _).symm, (List.append_nil _).symm⟩

-- An evaluation opens at most one alert, and asks for its ticket unless its publication
-- fails.
theorem exec_evaluate (texts : ReasonTexts) (entry : CheckedEntry) (faults : EntryFaults) (log : PassLog) :
    Advances log (exec (evaluate texts entry faults) log).2 [(entry.monitor.id, entry.result)]
      faults.createdAlert.toList faults.requestedTicket.toList := by
  let called : PassLog := { log with evaluated := log.evaluated ++ [(entry.monitor.id, entry.result)] }
  have hcalled : Advances log called [(entry.monitor.id, entry.result)] [] [] :=
    ⟨rfl, rfl, (List.append_nil _).symm, (List.append_nil _).symm⟩
  suffices hrest : Advances called (exec (evaluate texts entry faults) log).2 []
      faults.createdAlert.toList faults.requestedTicket.toList from hcalled.trans hrest
  unfold evaluate EntryFaults.requestedTicket EntryFaults.createdAlert
  rw [exec_modify_bind]
  cases faults.evaluation with
  | error error => exact .refl called
  | ok outcome =>
      cases outcome with
      | created alertId reasonText =>
          let opened : PassLog := { called with created := called.created ++ [alertId] }
          have hopened : Advances called opened [] [alertId] [] :=
            ⟨rfl, (List.append_nil _).symm, rfl, (List.append_nil _).symm⟩
          dsimp only
          rw [exec_modify_bind]
          obtain ⟨announced, ⟨hpublished, hexec⟩ | ⟨hfailed, error, hexec⟩, hadvances⟩ :=
            exec_publish (.alertCreated alertId entry.monitor.id) faults.created opened
          · have hlinked := exec_linkTicket entry.monitor alertId reasonText faults announced
            rw [exec_bind_ok hexec, Option.filter_some, hpublished]
            exact hopened.trans (hadvances.trans hlinked)
          · rw [exec_bind_error hexec, Option.filter_some, hfailed]
            exact hopened.trans hadvances
      | repeated ticketId noteBody =>
          cases ticketId with
          | none => exact .refl called
          | some ticketId =>
              cases noteBody with
              | none => exact .refl called
              | some noteBody =>
                  dsimp only
                  split
                  · exact exec_postNote ticketId noteBody called
                  · exact .refl called
      | resolved ticketId =>
          cases ticketId with
          | none => exact .refl called
          | some ticketId => exact exec_postNote ticketId _ called
      | noRule | notBad | notYetDue | lostRace | awaitingLocationQuorum => exact .refl called

-- The entries the loop comes to before a publication of a check fails.
def reached (entries : List (CheckedEntry × EntryFaults)) : List (CheckedEntry × EntryFaults) :=
  entries.takeWhile fun item => item.2.checked.isPublished

theorem reached_cons_of_published {item : CheckedEntry × EntryFaults} (rest : List (CheckedEntry × EntryFaults))
    (h : item.2.checked.isPublished = true) : reached (item :: rest) = item :: reached rest := by
  simp [reached, h]

theorem reached_cons_of_failed {item : CheckedEntry × EntryFaults} (rest : List (CheckedEntry × EntryFaults))
    (h : item.2.checked.isPublished = false) : reached (item :: rest) = [] := by
  simp [reached, h]

theorem filterMap_cons_toList {α β : Type} (f : α → Option β) (item : α) (rest : List α) :
    (item :: rest).filterMap f = (f item).toList ++ rest.filterMap f := by
  rw [List.filterMap_cons]
  cases f item <;> rfl

theorem exec_loop (texts : ReasonTexts) (entries : List (CheckedEntry × EntryFaults)) (log : PassLog) :
    Advances log (exec (forEach (publishAndEvaluate texts) entries) log).2
      ((reached entries).map fun item => (item.1.monitor.id, item.1.result))
      ((reached entries).filterMap fun item => item.2.createdAlert)
      ((reached entries).filterMap fun item => item.2.requestedTicket) := by
  induction entries generalizing log with
  | nil => exact .refl log
  | cons item rest ih =>
      obtain ⟨announced, ⟨hpublished, hexec⟩ | ⟨hfailed, error, hexec⟩, hadvances⟩ :=
        exec_publish (.monitorChecked item.1.monitor.id item.1.result.status item.1.result.responseTimeMs)
          item.2.checked log
      · have hturn : exec (publishAndEvaluate texts item) log =
            (.ok (), (exec (evaluate texts item.1 item.2) announced).2) :=
          (exec_bind_ok hexec).trans (exec_caught _)
        have hevaluated := exec_evaluate texts item.1 item.2 announced
        rw [exec_forEach_cons_ok rest hturn]
        rw [reached_cons_of_published rest hpublished, List.map_cons, filterMap_cons_toList, filterMap_cons_toList]
        exact hadvances.trans (hevaluated.trans (ih _))
      · have hturn : exec (publishAndEvaluate texts item) log = (.error error, announced) := exec_bind_error hexec
        rw [exec_forEach_cons_error rest hturn, reached_cons_of_failed rest hfailed]
        exact hadvances

-- Every check the pass has committed is evaluated in it, and a ticket is asked for, for
-- every alert it has opened.
structure AlertingReached (log : PassLog) : Prop where
  evaluated : (log.recorded.map fun row => (row.1, row.2.toCheckResult)).Subperm log.evaluated
  requested : log.created.Subperm (log.ticketRequests.map Prod.fst)

theorem AlertingReached.empty : AlertingReached .empty := ⟨.refl _, .refl _⟩

theorem length_requested_le (entries : List (CheckedEntry × EntryFaults)) :
    (entries.filterMap fun item => item.2.requestedTicket).length ≤
      (entries.filterMap fun item => item.2.createdAlert).length := by
  induction entries with
  | nil => exact Nat.le_refl _
  | cons item rest ih =>
      rw [filterMap_cons_toList, filterMap_cons_toList, List.length_append, List.length_append]
      have hitem : item.2.requestedTicket.toList.length ≤ item.2.createdAlert.toList.length := by
        unfold EntryFaults.requestedTicket
        cases item.2.createdAlert <;> cases item.2.created.isPublished <;> simp
      omega

theorem requested_eq_created_iff {entries : List (CheckedEntry × EntryFaults)} :
    (entries.filterMap fun item => item.2.createdAlert).Subperm
        (entries.filterMap fun item => item.2.requestedTicket) ↔
      ∀ item ∈ entries, (item.2.createdAlert.isNone || item.2.created.isPublished) = true := by
  constructor
  · intro h
    have hlength := h.length_le
    clear h
    induction entries with
    | nil => simp
    | cons item rest ih =>
        have hrest := length_requested_le rest
        rw [filterMap_cons_toList, filterMap_cons_toList, List.length_append, List.length_append] at hlength
        have hrequested : item.2.requestedTicket =
            item.2.createdAlert.filter fun _ => item.2.created.isPublished := rfl
        refine List.forall_mem_cons.mpr ?_
        cases hcreated : item.2.createdAlert with
        | none =>
            rw [hrequested, hcreated] at hlength
            exact ⟨by simp, ih (by simpa using hlength)⟩
        | some alertId =>
            rw [hrequested, hcreated, Option.filter_some] at hlength
            cases hpublished : item.2.created.isPublished with
            | true =>
                rw [hpublished] at hlength
                exact ⟨by simp, ih (by simpa [Nat.add_le_add_iff_left] using hlength)⟩
            | false =>
                rw [hpublished] at hlength
                simp only [Option.toList_some, List.length_singleton, Bool.false_eq_true, if_false, Option.toList_none,
                  List.length_nil] at hlength
                omega
  · intro h
    suffices hsame : (entries.filterMap fun item => item.2.createdAlert) =
        entries.filterMap fun item => item.2.requestedTicket from (List.Perm.of_eq hsame).subperm
    refine List.filterMap_congr fun item hmem => ?_
    have hitem := h item hmem
    unfold EntryFaults.requestedTicket
    cases hcreated : item.2.createdAlert with
    | none => rfl
    | some alertId =>
        rw [hcreated] at hitem
        simp only [Option.isNone_some, Bool.false_or] at hitem
        rw [Option.filter_some, hitem, if_pos rfl]

theorem reached_eq_self {entries : List (CheckedEntry × EntryFaults)}
    (h : ∀ item ∈ entries, item.2.checked.isPublished = true) : reached entries = entries :=
  List.takeWhile_eq_self_iff.mpr h

theorem reached_eq_iff {entries : List (CheckedEntry × EntryFaults)} :
    (entries.map fun item => (item.1.monitor.id, item.1.result)).Subperm
        ((reached entries).map fun item => (item.1.monitor.id, item.1.result)) ↔
      ∀ item ∈ entries, item.2.checked.isPublished = true := by
  constructor
  · intro h
    have hlength := h.length_le
    rw [List.length_map, List.length_map] at hlength
    have hall : reached entries = entries := (List.takeWhile_prefix _).eq_of_length_le hlength
    exact List.takeWhile_eq_self_iff.mp hall
  · intro h
    rw [reached_eq_self h]

theorem Advances.alertingReached_iff {worker : Worker} {recordedAt : Nat}
    {entries : List (CheckedEntry × EntryFaults)}
    {after : PassLog}
    (h : Advances { PassLog.empty with recorded := entries.map fun item => checkRow worker recordedAt item.1 } after
      ((reached entries).map fun item => (item.1.monitor.id, item.1.result))
      ((reached entries).filterMap fun item => item.2.createdAlert)
      ((reached entries).filterMap fun item => item.2.requestedTicket)) :
    AlertingReached after ↔ ∀ item ∈ entries, item.2.busWorks = true := by
  have hrows : after.recorded.map (fun row => (row.1, row.2.toCheckResult)) =
      entries.map fun item => (item.1.monitor.id, item.1.result) := by
    rw [h.recorded, List.map_map]
    rfl
  have hevaluated : after.evaluated = (reached entries).map fun item => (item.1.monitor.id, item.1.result) :=
    h.evaluated
  have hcreated : after.created = (reached entries).filterMap fun item => item.2.createdAlert := h.created
  have hrequested : after.ticketRequests.map Prod.fst =
      (reached entries).filterMap fun item => item.2.requestedTicket := h.requested
  have hreached : AlertingReached after ↔ (∀ item ∈ entries, item.2.checked.isPublished = true) ∧
      ((reached entries).filterMap fun item => item.2.createdAlert).Subperm
        ((reached entries).filterMap fun item => item.2.requestedTicket) := by
    rw [← reached_eq_iff, ← hrows, ← hevaluated, ← hcreated, ← hrequested]
    exact ⟨fun h => ⟨h.evaluated, h.requested⟩, fun h => ⟨h.1, h.2⟩⟩
  rw [hreached]
  simp only [EntryFaults.busWorks, Bool.and_eq_true, forall_and]
  refine and_congr_right fun hchecked => ?_
  rw [reached_eq_self hchecked, requested_eq_created_iff]

-- Whatever entries a pass has and whatever fails in it, an event-bus failure is all that
-- keeps a committed check from being evaluated or a new alert from its ticket.
theorem alerting_reached_iff (texts : ReasonTexts) (worker : Worker) (recordedAt : Nat)
    (recording : Except ServiceError Unit) (entries : List (CheckedEntry × EntryFaults)) :
    AlertingReached (exec (recordAndEvaluate texts worker recordedAt recording entries) .empty).2 ↔
      (recording.isOk = true → ∀ item ∈ entries, item.2.busWorks = true) := by
  unfold recordAndEvaluate
  by_cases hnone : entries.length = 0
  · rw [if_pos hnone]
    obtain rfl := List.length_eq_zero_iff.mp hnone
    exact iff_of_true .empty (by simp)
  rw [if_neg hnone]
  cases recording with
  | error error => exact iff_of_true .empty nofun
  | ok =>
      dsimp only
      rw [exec_modify_bind]
      let recorded : PassLog := { PassLog.empty with
        recorded := entries.map fun item => checkRow worker recordedAt item.1 }
      have hloop : AlertingReached (exec (forEach (publishAndEvaluate texts) entries) recorded).2 ↔
          ∀ item ∈ entries, item.2.busWorks = true :=
            Advances.alertingReached_iff (exec_loop texts entries recorded)
      exact hloop.trans ⟨fun h _ => h, fun h => h rfl⟩

def downMonitor (id : Nat) : CheckedEntry where
  monitor := ⟨id, "api", 1, .http, "{}", 1, some 1⟩
  result := ⟨.down, none, []⟩

-- The stream takes no entry for the first check, which opens an alert by its evaluation.
def streamDown : EntryFaults where
  checked := .notDelivered (.error "connect ECONNREFUSED")
  evaluation := .ok (.created 1 "api is down")
  created := .published
  ticket := some 1
  linked := .ok ()

def streamUp : EntryFaults := { streamDown with checked := .published }

theorem streamDown_not_reached :
    ¬ AlertingReached (exec (recordAndEvaluate plainTexts ⟨none⟩ 0 (.ok ())
      [(downMonitor 1, streamDown), (downMonitor 2, streamUp)]) .empty).2 := by
  intro h
  have hlength := h.evaluated.length_le
  exact absurd hlength (by decide)

end CloudOps.Monitoring.Scheduler
