import CloudOps.MarkThenDispatch
import CloudOps.Ticketing.OverdueSystem

namespace CloudOps.Ticketing

open CloudOps.ReadCommitted CloudOps.MarkThenDispatch

variable (env : Environment)

def Attempted (state : OverdueState) (key : Uuid × OverdueType) : Prop :=
  state.history.any (OverdueEntry.attempts key) = true

-- The publish raises, or the agent's mail does if there is one to send.
def DispatchOutcomes.fails (outcomes : DispatchOutcomes) (breach : OverdueBreach) : Bool :=
  outcomes.publishFails breach.key ||
    ((breach.ticket.agentId.bind outcomes.agentEmail).isSome && outcomes.enqueueFails breach.key)

theorem dispatchBreach_returned (outcomes : DispatchOutcomes) (breach : OverdueBreach) :
    (dispatchBreach outcomes breach).2 = !outcomes.fails breach := by
  unfold dispatchBreach DispatchOutcomes.fails
  cases outcomes.publishFails breach.key with
  | true => rfl
  | false => cases breach.ticket.agentId.bind outcomes.agentEmail <;> simp

-- A dispatch begins with the event of its breach, and publishes no other.
theorem dispatchBreach_attempts (outcomes : DispatchOutcomes) (breach : OverdueBreach)
    (key : Uuid × OverdueType) :
    ((dispatchBreach outcomes breach).1.any fun call => (OverdueEntry.dispatched call).attempts key) =
      (breach.key == key) := by
  unfold dispatchBreach
  split
  · simp [OverdueEntry.attempts, OverduePayload.key, OverdueBreach.payload, OverdueBreach.key]
  · split <;>
      simp [OverdueEntry.attempts, OverduePayload.key, OverdueBreach.payload, OverdueBreach.key]

-- The loop attempts the breaches up to its first failure.
theorem dispatchAll_attempts (outcomes : DispatchOutcomes) (breaches : List OverdueBreach)
    (key : Uuid × OverdueType) :
    ((dispatchAll outcomes breaches).any fun call => (OverdueEntry.dispatched call).attempts key) = true ↔
      ∃ breach ∈ attempts outcomes.fails breaches, breach.key = key := by
  induction breaches with
  | nil => simp [dispatchAll, attempts]
  | cons breach rest ih =>
      have hfirst := dispatchBreach_attempts outcomes breach key
      have hreturned := dispatchBreach_returned outcomes breach
      unfold dispatchAll attempts
      cases hfails : outcomes.fails breach with
      | true => simp [hreturned, hfails, hfirst]
      | false => simp [hreturned, hfails, hfirst, ih]

theorem attempted_sweep (state : OverdueState) (solo : Solo Uuid Ticket) (outcomes : DispatchOutcomes)
    (now : Nat) (key : Uuid × OverdueType) :
    Attempted (state.step env (.sweep solo outcomes now)) key ↔ Attempted state key ∨
      ∃ breach ∈ attempts outcomes.fails (overdueBreaches solo.order now state.store.tickets),
        breach.key = key := by
  have hhistory := (state.step_sweep env solo outcomes now).2
  rw [Attempted, hhistory, List.any_append, List.any_reverse, List.any_map, Bool.or_eq_true,
    or_comm, ← dispatchAll_attempts]
  rfl

theorem attempted_request (state : OverdueState) (call : TicketCall) (key : Uuid × OverdueType) :
    Attempted (state.step env (.request call)) key ↔ Attempted state key := by
  have hnone : (assignments state.store.tickets
      (step env state.store call).tickets).any (OverdueEntry.attempts key) = false := by
    rw [List.any_eq_false]
    intro entry hentry
    obtain ⟨id, overdueType, row, dueAt, rfl, -⟩ := mem_assignments hentry
    simp [OverdueEntry.attempts]
  simp only [Attempted, OverdueState.step, List.any_append, hnone, Bool.false_or]

theorem marked_sweep (state : OverdueState) (solo : Solo Uuid Ticket) (outcomes : DispatchOutcomes)
    (now : Nat) (key : Uuid × OverdueType) :
    Marked (state.step env (.sweep solo outcomes now)).store.tickets key ↔
      Marked state.store.tickets key ∨
        ∃ breach ∈ overdueBreaches solo.order now state.store.tickets, breach.key = key := by
  rw [(state.step_sweep env solo outcomes now).1.marked, List.mem_map]

def overdueMarking : Marking (OverdueState.step env) (Uuid × OverdueType) OverdueBreach where
  inv _ := True
  marked state := Marked state.store.tickets
  attempted := Attempted
  found state
    | .request _ => []
    | .sweep solo _ now => overdueBreaches solo.order now state.store.tickets
  keyOf := OverdueBreach.key
  fails
    | .request _ => fun _ => false
    | .sweep _ outcomes _ => outcomes.fails
  keep _ _ _ := trivial
  marks state event _ key := by
    cases event with
    | request call =>
        refine (marked_step env state.store call key).trans ?_
        simp
    | sweep solo outcomes now => exact marked_sweep env state solo outcomes now key
  tries state event _ key := by
    cases event with
    | request call =>
        refine (attempted_request env state call key).trans ?_
        simp [attempts]
    | sweep solo outcomes now => exact attempted_sweep env state solo outcomes now key
  new state event _ breach hbreach := by
    cases event with
    | request call => cases hbreach
    | sweep solo outcomes now => exact not_marked_of_mem hbreach
  distinct state event _ := by
    cases event with
    | request call => exact List.nodup_nil
    | sweep solo outcomes now => exact nodup_overdueBreaches solo.order now state.store.tickets

end CloudOps.Ticketing

namespace CloudOps.Ticketing

open CloudOps.ReadCommitted

instance {property : OverdueType → Prop} [DecidablePred property] :
    Decidable (∀ overdueType, property overdueType) :=
  decidable_of_iff (property .firstResponse ∧ property .resolution)
    ⟨fun h overdueType => OverdueType.casesOn overdueType h.1 h.2, fun h => ⟨h _, h _⟩⟩

-- What has happened since the target was last given a due date.
def sinceAssigned (key : Uuid × OverdueType) (history : List OverdueEntry) : List OverdueEntry :=
  history.takeWhile fun entry => !entry.assigns key

-- The due date the target has now has been published as missed.
def Announced (history : List OverdueEntry) (key : Uuid × OverdueType) : Prop :=
  (sinceAssigned key history).any (OverdueEntry.publishes key) = true

instance (history : List OverdueEntry) : DecidablePred (Announced history) := fun key =>
  inferInstanceAs (Decidable ((sinceAssigned key history).any (OverdueEntry.publishes key) = true))

theorem announced_append_iff {newer : List OverdueEntry} {key : Uuid × OverdueType}
    (h : ∀ entry ∈ newer, entry.assigns key = false) (history : List OverdueEntry) :
    Announced (newer ++ history) key ↔
      newer.any (OverdueEntry.publishes key) = true ∨ Announced history key := by
  have htake : sinceAssigned key (newer ++ history) = newer ++ sinceAssigned key history := by
    apply List.takeWhile_append_of_pos
    intro entry hentry
    rw [h entry hentry, Bool.not_false]
  rw [Announced, htake, List.any_append, Bool.or_eq_true, Announced]

variable (env : Environment)

-- Once a pass has run, every due date an open ticket has missed is announced.
def MissedAnnounced (state : OverdueState) : OverdueEvent → Prop
  | .request _ => True
  | .sweep solo outcomes now => ∀ row ∈ state.store.tickets.rows, ∀ overdueType,
      row.2.status.isClosing = false → row.2.metAt overdueType = none →
        ∀ dueAt ∈ row.2.dueAt overdueType, dueAt < now →
          Announced (state.step env (.sweep solo outcomes now)).history (row.1, overdueType)

-- A request gives a target that was reported no other due date than it has, and of the
-- breaches a pass finds all are published and none but the last fails.
def KeepsReported (state : OverdueState) : OverdueEvent → Prop
  | .request (.update text dto _ _) => ∀ id ∈ env.castUuid text,
      ∀ row ∈ state.store.tickets.lookup id,
        ∀ assignment ∈ recalculateSla env state.store row (dto.ticketTypeId.resolve env),
          ∀ overdueType, (row.notifiedAt overdueType).isSome →
            ∀ dueAt ∈ (assignment.set row).dueAt overdueType, row.dueAt overdueType = some dueAt
  | .request (.create ..) | .request (.merge ..) => True
  | .sweep solo outcomes now =>
      let breaches := overdueBreaches solo.order now state.store.tickets
      (∀ breach ∈ breaches, outcomes.publishFails breach.key = false) ∧
        ∀ breach ∈ breaches.dropLast, outcomes.fails breach = false

-- A target that was reported, and has a due date, was reported with that due date.
def ReportsCurrent (state : OverdueState) : Prop :=
  ∀ id row, state.store.tickets.lookup id = some row → ∀ overdueType,
    (row.notifiedAt overdueType).isSome → (row.dueAt overdueType).isSome →
      Announced state.history (id, overdueType)

theorem dispatchAll_publishes (outcomes : DispatchOutcomes) (breaches : List OverdueBreach)
    (hpublish : ∀ breach ∈ breaches, outcomes.publishFails breach.key = false)
    (hreturn : ∀ breach ∈ breaches.dropLast, outcomes.fails breach = false) :
    ∀ breach ∈ breaches, .publish breach.payload true ∈ dispatchAll outcomes breaches := by
  induction breaches with
  | nil => exact fun breach hbreach => by cases hbreach
  | cons first rest ih =>
      have hfirst : .publish first.payload true ∈ (dispatchBreach outcomes first).1 := by
        unfold dispatchBreach
        rw [if_neg (by simp [hpublish first List.mem_cons_self])]
        split <;> simp
      have hreturned := dispatchBreach_returned outcomes first
      unfold dispatchAll
      cases rest with
      | nil =>
          intro breach hbreach
          rw [List.mem_singleton.mp hbreach]
          dsimp only
          split
          · exact List.mem_append_left _ hfirst
          · exact hfirst
      | cons second others =>
          rw [List.dropLast_cons_cons] at hreturn
          rw [hreturn first List.mem_cons_self, Bool.not_false] at hreturned
          dsimp only
          rw [if_pos hreturned]
          intro breach hbreach
          rcases List.mem_cons.mp hbreach with rfl | hlater
          · exact List.mem_append_left _ hfirst
          · apply List.mem_append_right
            exact ih (fun other ho => hpublish other (List.mem_cons_of_mem _ ho))
              (fun other ho => hreturn other (List.mem_cons_of_mem _ ho)) breach hlater

-- A pass leaves announced what was, and announces what it finds.
theorem announced_sweep {state : OverdueState} {solo : Solo Uuid Ticket} {outcomes : DispatchOutcomes}
    {now : Nat} (hkeeps : KeepsReported env state (.sweep solo outcomes now)) (key : Uuid × OverdueType)
    (h : Announced state.history key ∨
      ∃ breach ∈ overdueBreaches solo.order now state.store.tickets, breach.key = key) :
    Announced (state.step env (.sweep solo outcomes now)).history key := by
  rw [(state.step_sweep env solo outcomes now).2, announced_append_iff]
  · rcases h with hbefore | ⟨breach, hbreach, rfl⟩
    · exact .inr hbefore
    · left
      have hcall := dispatchAll_publishes outcomes _ hkeeps.1 hkeeps.2 breach hbreach
      rw [List.any_reverse, List.any_map, List.any_eq_true]
      exact ⟨_, hcall, by
        simp [OverdueEntry.publishes, OverduePayload.key, OverdueBreach.payload, OverdueBreach.key]⟩
  · intro entry hentry
    obtain ⟨call, -, rfl⟩ := List.mem_map.mp (List.mem_reverse.mp hentry)
    rfl

theorem announced_request {state : OverdueState} {call : TicketCall} {id : Uuid}
    {overdueType : OverdueType}
    (hsame : ∀ row, (step env state.store call).tickets.lookup id = some row →
      row.dueAt overdueType = (state.store.tickets.lookup id).bind fun old => old.dueAt overdueType)
    (h : Announced state.history (id, overdueType)) :
    Announced (state.step env (.request call)).history (id, overdueType) := by
  refine (announced_append_iff ?_ state.history).mpr (.inr h)
  intro entry hentry
  obtain ⟨other, otherType, row, dueAt, rfl, hrow, hdue, hnew⟩ := mem_assignments hentry
  rw [OverdueEntry.assigns, beq_eq_false_iff_ne]
  rintro ⟨rfl, rfl⟩
  exact hnew ((hsame row hrow).symm.trans hdue)

theorem ReportsCurrent.request {state : OverdueState} (h : ReportsCurrent state) (call : TicketCall)
    (hkeeps : KeepsReported env state (.request call)) :
    ReportsCurrent (state.step env (.request call)) := by
  intro id row hrow overdueType hreported hdue
  have hrow : (step env state.store call).tickets.lookup id = some row := hrow
  have hchange := (step_sla env state.store call).changes id row hrow
  cases hold : state.store.tickets.lookup id with
  | none =>
      rw [hold] at hchange
      rw [hchange.notifiedAt] at hreported
      cases hreported
  | some old =>
      rw [hold] at hchange
      have hbefore : (old.notifiedAt overdueType).isSome := by
        rw [hchange.notifiedAt] at hreported
        exact hreported
      have hdates : row.dueAt overdueType = old.dueAt overdueType := by
        cases hchange with
        | kept _ _ _ _ hsla => exact Ticket.dueAt_of_sla hsla overdueType
        | recalculated text dto actorAgentId now _ _ _ assignment hid hassigned hsla =>
            obtain ⟨dueAt, hd⟩ := Option.isSome_iff_exists.mp hdue
            have hset : (assignment.set old).dueAt overdueType = some dueAt :=
              (Ticket.dueAt_of_sla hsla overdueType).symm.trans hd
            rw [hd]
            exact (hkeeps id hid old hold assignment hassigned overdueType hbefore dueAt hset).symm
      apply announced_request
      · intro other hother
        obtain rfl := Option.some.inj (hrow.symm.trans hother)
        rw [hold, hdates]
        rfl
      · exact h id old hold overdueType hbefore (hdates ▸ hdue)

theorem ReportsCurrent.sweep {state : OverdueState} (h : ReportsCurrent state)
    {solo : Solo Uuid Ticket} {outcomes : DispatchOutcomes} {now : Nat}
    (hkeeps : KeepsReported env state (.sweep solo outcomes now)) :
    ReportsCurrent (state.step env (.sweep solo outcomes now)) := by
  intro id row hrow overdueType hreported hdue
  have hmarked : Marked (state.step env (.sweep solo outcomes now)).store.tickets (id, overdueType) :=
    ⟨row, hrow, hreported⟩
  apply announced_sweep env hkeeps
  rcases (marked_sweep env state solo outcomes now _).mp hmarked with ⟨old, hold, hbefore⟩ | hfound
  · left
    have hrest := (state.step_sweep env solo outcomes now).1.rest id
    rw [hrow, hold, Option.map_some, Option.map_some] at hrest
    have hdates : row.dueAt overdueType = old.dueAt overdueType := by
      have hsame := congrArg (fun ticket => Ticket.dueAt ticket overdueType) (Option.some.inj hrest)
      cases overdueType with
      | firstResponse => exact hsame
      | resolution => exact hsame
    exact h id old hold overdueType hbefore (hdates ▸ hdue)
  · exact .inr hfound

-- A missed due date is found by the pass, or was reported before it.
theorem ReportsCurrent.missedAnnounced {state : OverdueState} (h : ReportsCurrent state)
    {solo : Solo Uuid Ticket} {outcomes : DispatchOutcomes} {now : Nat}
    (hkeeps : KeepsReported env state (.sweep solo outcomes now)) :
    MissedAnnounced env state (.sweep solo outcomes now) := by
  rintro ⟨id, row⟩ hmem overdueType hopen hunmet dueAt hdue hmissed
  have hrow := Table.mem_rows.mp hmem
  have hdue : row.dueAt overdueType = some dueAt := hdue
  apply announced_sweep env hkeeps
  by_cases hreported : (row.notifiedAt overdueType).isSome
  · exact .inl (h id row hrow overdueType hreported (by rw [hdue, Option.isSome_some]))
  · right
    have hbreaches : row.breaches overdueType now = true := by
      have hunmet : row.metAt overdueType = none := hunmet
      simp [Ticket.breaches, hdue, hunmet, hmissed, Option.not_isSome_iff_eq_none.mp hreported]
    have hcandidate : isCandidate now row = true := by
      have hopen : row.status.isClosing = false := hopen
      cases overdueType with
      | firstResponse => simp [isCandidate, hopen, hbreaches]
      | resolution => simp [isCandidate, hopen, hbreaches]
    exact ⟨⟨id, row, overdueType, dueAt⟩,
      mem_overdueBreaches.mpr ⟨hrow, hcandidate, hbreaches, hdue⟩, rfl⟩

-- Each missed deadline is announced in every run in which no request gives a reported
-- target another due date, and no dispatch of a pass fails but after its last event.
theorem missed_deadlines_announced (store : TicketStore) (events : List OverdueEvent)
    (hkeeps : Runs.AllSteps (OverdueState.step env) (KeepsReported env) (.start store) events) :
    Runs.AllSteps (OverdueState.step env) (MissedAnnounced env) (.start store) events := by
  have hstart : ReportsCurrent (OverdueState.start store) := by
    intro id row hrow
    simp [OverdueState.start] at hrow
  refine Runs.allSteps_of_invariant hstart ?_ hkeeps
  intro state event h hkeeps
  cases event with
  | request call => exact ⟨h.request env call hkeeps, trivial⟩
  | sweep solo outcomes now => exact ⟨h.sweep env hkeeps, h.missedAnnounced env hkeeps⟩

instance (state : OverdueState) : DecidablePred (MissedAnnounced env state)
  | .request _ => isTrue trivial
  | .sweep solo outcomes now => inferInstanceAs (Decidable (∀ row ∈ state.store.tickets.rows, ∀ overdueType,
      row.2.status.isClosing = false → row.2.metAt overdueType = none →
        ∀ dueAt ∈ row.2.dueAt overdueType, dueAt < now →
          Announced (state.step env (.sweep solo outcomes now)).history (row.1, overdueType)))

instance (state : OverdueState) : DecidablePred (KeepsReported env state)
  | .request (.update text dto _ _) => inferInstanceAs (Decidable (∀ id ∈ env.castUuid text,
      ∀ row ∈ state.store.tickets.lookup id,
        ∀ assignment ∈ recalculateSla env state.store row (dto.ticketTypeId.resolve env),
          ∀ overdueType, (row.notifiedAt overdueType).isSome →
            ∀ dueAt ∈ (assignment.set row).dueAt overdueType, row.dueAt overdueType = some dueAt))
  | .request (.create ..) | .request (.merge ..) => isTrue trivial
  | .sweep solo outcomes now => inferInstanceAs (Decidable (
      (∀ breach ∈ overdueBreaches solo.order now state.store.tickets,
        outcomes.publishFails breach.key = false) ∧
      ∀ breach ∈ (overdueBreaches solo.order now state.store.tickets).dropLast,
        outcomes.fails breach = false))

def noFailure : DispatchOutcomes where
  publishFails _ := false
  agentEmail _ := none
  enqueueFails _ := false

def changeType (ticketTypeId : String) : UpdateTicketDto where
  status := none
  priority := none
  groupId := .undefined
  agentId := .undefined
  ticketTypeId := .value ticketTypeId
  platform := .undefined
  tags := none
  customFields := none

-- An urgent ticket becomes a routine one before its first deadline is missed.
def changedInTime : List OverdueEvent :=
  [.request (.create urgentTicket ⟨9, 6⟩ 0),
    .request (.update ticketId (changeType routineTypeId) none 30000),
    .sweep (.counting _) noFailure 90000, .sweep (.counting _) noFailure 150000]

theorem changedInTime_announced :
    Runs.AllSteps (OverdueState.step deskIds) (MissedAnnounced deskIds) (.start desk) changedInTime :=
  missed_deadlines_announced deskIds desk changedInTime (by decide +kernel)

-- Here the deadline was missed and reported by then. The new one is missed too.
def changedAfterReport : List OverdueEvent :=
  [.request (.create urgentTicket ⟨9, 6⟩ 0), .sweep (.counting _) noFailure 90000,
    .request (.update ticketId (changeType routineTypeId) none 100000),
    .sweep (.counting _) noFailure 150000]

theorem recalculated_deadline_unannounced :
    ¬ Runs.AllSteps (OverdueState.step deskIds) (MissedAnnounced deskIds) (.start desk)
      changedAfterReport := by
  decide +kernel

end CloudOps.Ticketing
