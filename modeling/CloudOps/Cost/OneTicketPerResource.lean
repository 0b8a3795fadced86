import CloudOps.Cost.MonitorVerdict
import CloudOps.Cost.RecommendationsService
import CloudOps.Runs

namespace CloudOps.Cost

open CloudOps.ReadCommitted CloudOps.SharedTransaction
open CloudOps.Ticketing (Uuid)

variable {reads : SweepReads} {monitor : CloudMetricMonitor} {monitors : List CloudMetricMonitor}
  {table after : Recommendations} {resourceId id ticketId : Uuid} {row : Recommendation}

def Recommendation.Live (row : Recommendation) (resourceId : Uuid) : Prop :=
  row.resourceId = resourceId ∧ (row.status = .open ∨ row.status = .ticketCreated)

instance (row : Recommendation) (resourceId : Uuid) : Decidable (row.Live resourceId) :=
  inferInstanceAs (Decidable (_ ∧ (_ ∨ _)))

def Recommendations.AtMostOneLive (table : Recommendations) (resourceId : Uuid) : Prop :=
  ∀ id other row otherRow, table.rows.lookup id = some row → table.rows.lookup other = some otherRow →
    row.Live resourceId → otherRow.Live resourceId → id = other

-- A recommendation of the resource has a ticket and is not closed.
def Recommendations.HasTicketed (table : Recommendations) (resourceId : Uuid) : Prop :=
  ∃ id row, table.rows.lookup id = some row ∧ row.resourceId = resourceId ∧ row.status = .ticketCreated

instance (table : Recommendations) (resourceId : Uuid) : Decidable (table.HasTicketed resourceId) :=
  decidable_of_iff (∃ found ∈ table.rows.rows, found.2.resourceId = resourceId ∧ found.2.status = .ticketCreated) (by
    simp only [Recommendations.HasTicketed, Prod.exists, Table.mem_rows])

def Desk.ticketsOf (desk : Desk) (resourceId : Uuid) : Nat :=
  (desk.tickets.filter fun ticket => ticket.2.resourceId = resourceId).length

def Desk.OneTicket (desk : Desk) (resourceId : Uuid) : Prop :=
  desk.table.AtMostOneLive resourceId ∧ desk.ticketsOf resourceId ≤ 1

-- A pass that finds the resource under-utilised: a monitor of it says so, and none says
-- the opposite.
structure UnderUtilisedPass (resourceId : Uuid) where
  reads : SweepReads
  monitors : List CloudMetricMonitor
  found : ∃ monitor ∈ monitors, monitor.resourceId = resourceId ∧ reads.verdict monitor = .underUtilised
  noneHealthy : ∀ monitor ∈ monitors, monitor.resourceId = resourceId → reads.verdict monitor ≠ .healthy

-- What may happen in a period in which every pass finds the resource under-utilised.
inductive PeriodEvent (resourceId : Uuid) where
  | pass (pass : UnderUtilisedPass resourceId)
  | createTicket (call id : Uuid)
  | posted (call : Uuid) (created : Option Uuid) (answered : Bool)
  | linked (call : Uuid) (now : Nat)
  | dropped (call : Uuid)
  | update (id : Uuid) (status : PatchableStatus) (now : Nat)

def PeriodEvent.event : PeriodEvent resourceId → DeskEvent
  | .pass sweep => .pass sweep.reads sweep.monitors
  | .createTicket call id => .createTicket call id
  | .posted call created answered => .posted call created answered
  | .linked call now => .linked call now
  | .dropped call => .dropped call
  | .update id status now => .update id status now

def Desk.stepIn (resourceName : Uuid → Option String) (desk : Desk) (event : PeriodEvent resourceId) : Desk :=
  desk.step resourceName event.event

-- A pass that is not rolled back finds no recommendation of the resource with a ticket, and a
-- recommendation is linked to its ticket only where no other one of the resource is live.
def KeepsOneLive (desk : Desk) : PeriodEvent resourceId → Prop
  | .pass pass =>
      (∀ monitor ∈ pass.monitors, pass.reads.malformed monitor = false) → ¬ desk.table.HasTicketed resourceId
  | .linked call _ =>
      ∀ id ticketId row, desk.calls.lookup call = some (.linking id ticketId) →
        desk.table.rows.lookup id = some row → row.resourceId = resourceId →
        ∀ other otherRow, desk.table.rows.lookup other = some otherRow → otherRow.Live resourceId → other = id
  | .createTicket .. | .posted .. | .dropped _ | .update .. => True

-- The recommendation a call is for.
def TicketCall.recommendationId : TicketCall → Uuid
  | posting id _ => id
  | linking id _ => id

def Recommendations.OfResource (table : Recommendations) (id resourceId : Uuid) : Prop :=
  ∃ row, table.rows.lookup id = some row ∧ row.resourceId = resourceId

def Desk.ticketIds (desk : Desk) : List Uuid := desk.tickets.map Prod.fst

-- A recommendation of the resource has got a ticket of the period.
def Desk.Linked (desk : Desk) (resourceId : Uuid) : Prop :=
  ∃ id row ticketId, desk.table.rows.lookup id = some row ∧ row.resourceId = resourceId ∧
    row.ticketId = some ticketId ∧ ticketId ∈ desk.ticketIds

-- The calls for the resource come one after another: one passes its check of ticket_id only
-- when no other is in flight and no recommendation of the resource has got a ticket, the
-- answer of a request that creates one arrives, and the call does not end before it has
-- linked it.
def TakesTurns (resourceName : Uuid → Option String) (desk : Desk) : PeriodEvent resourceId → Prop
  | .createTicket call id =>
      ∀ body, createTicket resourceName desk.table id = .ok (.inr body) → call ∉ desk.calls →
        body.resourceId = resourceId →
        (∀ other state, desk.calls.lookup other = some state →
          ¬ desk.table.OfResource state.recommendationId resourceId) ∧ ¬ desk.Linked resourceId
  | .posted call created answered =>
      ∀ id body, desk.calls.lookup call = some (.posting id body) → body.resourceId = resourceId →
        created.isSome = true → answered = true
  | .dropped call =>
      ∀ id ticketId, desk.calls.lookup call = some (.linking id ticketId) → ¬ desk.table.OfResource id resourceId
  | .pass _ | .linked .. | .update .. => True

-- The period begins with no call under way, and its tickets are counted from there.
structure Desk.Begins (desk : Desk) (resourceId : Uuid) : Prop where
  live : desk.table.AtMostOneLive resourceId
  calls : desk.calls = ∅
  tickets : desk.tickets = []

section Passes

-- A monitor leaves the recommendations that have a ticket as they are.
theorem Evaluated.ticketed (h : Evaluated reads monitor table after) (id : Uuid) (row : Recommendation)
    (hstatus : row.status = .ticketCreated) :
    after.rows.lookup id = some row ↔ table.rows.lookup id = some row := by
  have hwritten : ∀ written new, after.rows = table.rows.insert written new → new.status ≠ .ticketCreated →
      (∀ old, table.rows.lookup written = some old → old.status ≠ .ticketCreated) →
      (after.rows.lookup id = some row ↔ table.rows.lookup id = some row) := by
    intro written new hafter hnew hold
    rw [hafter, Table.lookup_insert_eq]
    by_cases hsame : id = written
    · subst hsame
      rw [if_pos rfl]
      constructor
      · intro hrow
        exact absurd hstatus (Option.some.inj hrow ▸ hnew)
      · intro hrow
        exact absurd hstatus (hold row hrow)
    · rw [if_neg hsame]
  cases h with
  | unjudged _ hafter => rw [hafter]
  | healthy _ _ hafter => rw [hafter]
  | resolved written old _ hopen hafter =>
      obtain ⟨hlookup, -, hold⟩ := Recommendations.openRecommendation_eq_some.mp hopen
      refine hwritten written _ hafter nofun fun found hfound => ?_
      obtain rfl := Option.some.inj (hlookup.symm.trans hfound)
      simp [hold]
  | inserted type reasonText saving _ _ hafter =>
      refine hwritten _ _ hafter nofun fun found hfound => ?_
      exact absurd (Table.mem_of_lookup hfound) (reads.fresh table.rows)
  | updated written old type reasonText saving _ hopen hafter =>
      obtain ⟨hlookup, -, hold⟩ := Recommendations.openRecommendation_eq_some.mp hopen
      refine hwritten written _ hafter (by simp [Recommendation.refresh, hold]) fun found hfound => ?_
      obtain rfl := Option.some.inj (hlookup.symm.trans hfound)
      simp [hold]

theorem hasTicketed_sweep (h : ∀ monitor ∈ monitors, reads.malformed monitor = false) (table : Recommendations) :
    (commit (sweepMonitors reads monitors) table).HasTicketed resourceId ↔ table.HasTicketed resourceId := by
  induction monitors generalizing table with
  | nil => rfl
  | cons monitor rest ih =>
      obtain ⟨hmonitor, hrest⟩ := List.forall_mem_cons.mp h
      have hone := sweep_singleton hmonitor table
      rw [sweep_cons h, ih hrest]
      unfold Recommendations.HasTicketed
      constructor
      · rintro ⟨id, row, hrow, hresource, hstatus⟩
        exact ⟨id, row, (hone.ticketed id row hstatus).mp hrow, hresource, hstatus⟩
      · rintro ⟨id, row, hrow, hresource, hstatus⟩
        exact ⟨id, row, (hone.ticketed id row hstatus).mpr hrow, hresource, hstatus⟩

-- Beside an open recommendation there is room for none with a ticket.
theorem atMostOneLive_of_hasOpen (hopen : table.HasOpen resourceId) :
    table.AtMostOneLive resourceId ↔ ¬ table.HasTicketed resourceId := by
  constructor
  · rintro hone ⟨id, row, hrow, hresource, hstatus⟩
    obtain ⟨other, otherRow, hother, hotherResource, hotherOpen⟩ := hopen
    obtain rfl := hone id other row otherRow hrow hother ⟨hresource, .inr hstatus⟩ ⟨hotherResource, .inl hotherOpen⟩
    obtain rfl := Option.some.inj (hrow.symm.trans hother)
    rw [hstatus] at hotherOpen
    cases hotherOpen
  · intro hnone id other row otherRow hrow hother hlive hotherLive
    have hisOpen : ∀ found foundRow, table.rows.lookup found = some foundRow → foundRow.Live resourceId →
        foundRow.status = .open := by
      intro found foundRow hfound hfoundLive
      rcases hfoundLive.2 with hfoundOpen | hticketed
      · exact hfoundOpen
      · exact absurd ⟨found, foundRow, hfound, hfoundLive.1, hticketed⟩ hnone
    exact table.oneOpen id other row otherRow hrow hother (hisOpen id row hrow hlive)
      (hisOpen other otherRow hother hotherLive) (hlive.1.trans hotherLive.1.symm)

theorem atMostOneLive_pass (pass : UnderUtilisedPass resourceId)
    (hone : table.AtMostOneLive resourceId) :
    (commit (sweepMonitors pass.reads pass.monitors) table).AtMostOneLive resourceId ↔
      ((∀ monitor ∈ pass.monitors, pass.reads.malformed monitor = false) → ¬ table.HasTicketed resourceId) := by
  by_cases hmalformed : ∃ monitor ∈ pass.monitors, pass.reads.malformed monitor = true
  · have hnot : ¬ ∀ monitor ∈ pass.monitors, pass.reads.malformed monitor = false := by
      simpa using hmalformed
    simp [sweep_of_malformed hmalformed, hone, hnot]
  · have hwellFormed : ∀ monitor ∈ pass.monitors, pass.reads.malformed monitor = false := by
      simpa using hmalformed
    have hagree : AgreeOn pass.reads pass.monitors resourceId :=
      fun _ _ other hother _ hresource _ => pass.noneHealthy other hother hresource
    have hopen := (hasOpen_sweep hwellFormed hagree table).mpr (.inl pass.found)
    rw [atMostOneLive_of_hasOpen hopen, hasTicketed_sweep hwellFormed]
    exact ⟨fun hnone _ => hnone, fun hnone => hnone hwellFormed⟩

end Passes

section Updates

variable {set : Recommendation → Recommendation}

theorem rows_updateRow (hset : (set row).status ≠ .open) (hrow : table.rows.lookup id = some row) :
    (table.updateRow id set).rows = table.rows.insert id (set row) := by
  have hput : ∃ after, table.put id (set row) = .ok after := Recommendations.put_ok fun hopen => absurd hopen hset
  obtain ⟨after, hafter⟩ := hput
  unfold Recommendations.updateRow
  simp only [hrow, hafter]
  exact Recommendations.rows_of_put hafter

theorem updateRow_of_none (hrow : table.rows.lookup id = none) : table.updateRow id set = table := by
  unfold Recommendations.updateRow
  rw [hrow]

-- A row that is closed makes no other one live.
theorem Recommendations.AtMostOneLive.close (hone : table.AtMostOneLive resourceId)
    (hset : ∀ row : Recommendation, (set row).status ≠ .open ∧ (set row).status ≠ .ticketCreated) (id : Uuid) :
    (table.updateRow id set).AtMostOneLive resourceId := by
  cases hrow : table.rows.lookup id with
  | none =>
      rw [updateRow_of_none hrow]
      exact hone
  | some row =>
      have hkept : ∀ other found, (table.updateRow id set).rows.lookup other = some found →
          found.Live resourceId → table.rows.lookup other = some found := by
        intro other found hfound hlive
        rw [rows_updateRow (hset row).1 hrow, Table.lookup_insert_eq] at hfound
        split at hfound
        · obtain rfl := Option.some.inj hfound
          rcases hlive.2 with hopen | hticketed
          · exact absurd hopen (hset row).1
          · exact absurd hticketed (hset row).2
        · exact hfound
      intro first second firstRow secondRow hfirst hsecond hfirstLive hsecondLive
      exact hone first second firstRow secondRow (hkept first firstRow hfirst hfirstLive)
        (hkept second secondRow hsecond hsecondLive) hfirstLive hsecondLive

-- A row that gets its ticket has to be the only live one of its resource.
theorem atMostOneLive_linkTicket (hone : table.AtMostOneLive resourceId)
    (hrow : table.rows.lookup id = some row) (now : Nat) :
    (linkTicket table id ticketId now).AtMostOneLive resourceId ↔ (row.resourceId = resourceId →
      ∀ other otherRow, table.rows.lookup other = some otherRow → otherRow.Live resourceId → other = id) := by
  have hrows : (linkTicket table id ticketId now).rows = table.rows.insert id
      { row with status := .ticketCreated, ticketId := some ticketId, updatedAt := now } :=
    rows_updateRow nofun hrow
  unfold Recommendations.AtMostOneLive
  simp only [hrows, Table.lookup_insert_eq]
  constructor
  · intro h hresource other otherRow hother hlive
    by_contra hne
    have hsame := h other id otherRow _ (by rw [if_neg hne, hother]) (if_pos rfl) hlive ⟨hresource, .inr rfl⟩
    exact hne hsame
  · intro h first second firstRow secondRow hfirst hsecond hfirstLive hsecondLive
    split at hfirst
    · rename_i hfirstId
      obtain rfl := Option.some.inj hfirst
      split at hsecond
      · rename_i hsecondId
        exact hfirstId.trans hsecondId.symm
      · exact hfirstId.trans (h hfirstLive.1 second secondRow hsecond hsecondLive).symm
    · split at hsecond
      · rename_i hsecondId
        obtain rfl := Option.some.inj hsecond
        exact (h hsecondLive.1 first firstRow hfirst hfirstLive).trans hsecondId.symm
      · exact hone first second firstRow secondRow hfirst hsecond hfirstLive hsecondLive

-- The rows stay, of their resources and with their tickets.
def Recommendations.Keeps (before after : Recommendations) : Prop :=
  ∀ id row, before.rows.lookup id = some row → ∃ later, after.rows.lookup id = some later ∧
    later.resourceId = row.resourceId ∧ later.ticketId = row.ticketId

theorem Recommendations.keeps_rfl (table : Recommendations) : table.Keeps table :=
  fun _ row hrow => ⟨row, hrow, rfl, rfl⟩

theorem Recommendations.Keeps.trans {later : Recommendations} (h : table.Keeps after) (hlater : after.Keeps later) :
    table.Keeps later := by
  intro id row hrow
  obtain ⟨middle, hmiddle, hresource, hticket⟩ := h id row hrow
  obtain ⟨last, hlast, hsameResource, hsameTicket⟩ := hlater id middle hmiddle
  exact ⟨last, hlast, hsameResource.trans hresource, hsameTicket.trans hticket⟩

theorem keeps_of_insert {new : Recommendation} (hafter : after.rows = table.rows.insert id new)
    (hnew : ∀ old, table.rows.lookup id = some old → new.resourceId = old.resourceId ∧ new.ticketId = old.ticketId) :
    table.Keeps after := by
  intro other row hrow
  rw [hafter, Table.lookup_insert_eq]
  split_ifs with hsame
  · exact ⟨new, rfl, hnew row (hsame ▸ hrow)⟩
  · exact ⟨row, hrow, rfl, rfl⟩

theorem Evaluated.keeps (h : Evaluated reads monitor table after) : table.Keeps after := by
  cases h with
  | unjudged _ hafter => exact hafter ▸ table.keeps_rfl
  | healthy _ _ hafter => exact hafter ▸ table.keeps_rfl
  | resolved written old _ hopen hafter =>
      obtain ⟨hlookup, -⟩ := Recommendations.openRecommendation_eq_some.mp hopen
      refine keeps_of_insert hafter fun found hfound => ?_
      obtain rfl := Option.some.inj (hlookup.symm.trans hfound)
      exact ⟨rfl, rfl⟩
  | inserted type reasonText saving _ _ hafter =>
      refine keeps_of_insert hafter fun found hfound => ?_
      exact absurd (Table.mem_of_lookup hfound) (reads.fresh table.rows)
  | updated written old type reasonText saving _ hopen hafter =>
      obtain ⟨hlookup, -⟩ := Recommendations.openRecommendation_eq_some.mp hopen
      refine keeps_of_insert hafter fun found hfound => ?_
      obtain rfl := Option.some.inj (hlookup.symm.trans hfound)
      exact ⟨rfl, rfl⟩

theorem sweep_keeps (reads : SweepReads) (monitors : List CloudMetricMonitor) (table : Recommendations) :
    table.Keeps (commit (sweepMonitors reads monitors) table) := by
  by_cases hmalformed : ∃ monitor ∈ monitors, reads.malformed monitor = true
  · rw [sweep_of_malformed hmalformed]
    exact table.keeps_rfl
  · have hwellFormed : ∀ monitor ∈ monitors, reads.malformed monitor = false := by simpa using hmalformed
    clear hmalformed
    induction monitors generalizing table with
    | nil => exact table.keeps_rfl
    | cons monitor rest ih =>
        obtain ⟨hmonitor, hrest⟩ := List.forall_mem_cons.mp hwellFormed
        rw [sweep_cons hwellFormed]
        exact (sweep_singleton hmonitor table).keeps.trans (ih _ hrest)

theorem updateRow_keeps (hset : ∀ row : Recommendation, (set row).status ≠ .open ∧
    (set row).resourceId = row.resourceId ∧ (set row).ticketId = row.ticketId) (id : Uuid) :
    table.Keeps (table.updateRow id set) := by
  cases hrow : table.rows.lookup id with
  | none =>
      rw [updateRow_of_none hrow]
      exact table.keeps_rfl
  | some row =>
      refine keeps_of_insert (rows_updateRow (hset row).1 hrow) fun old hold => ?_
      obtain rfl := Option.some.inj (hrow.symm.trans hold)
      exact (hset row).2

end Updates

namespace Desk

variable {resourceName : Uuid → Option String} {desk : Desk}

theorem begin_keeps (resourceName : Uuid → Option String) (desk : Desk) (call id : Uuid) :
    (desk.begin resourceName call id).table = desk.table := by
  unfold Desk.begin
  split
  · split <;> rfl
  · rfl
  · rfl

theorem atMostOneLive_link (h : desk.table.AtMostOneLive resourceId) (call : Uuid) (now : Nat) :
    (desk.link call now).table.AtMostOneLive resourceId ↔
      ∀ id ticketId row, desk.calls.lookup call = some (.linking id ticketId) →
        desk.table.rows.lookup id = some row → row.resourceId = resourceId →
        ∀ other otherRow, desk.table.rows.lookup other = some otherRow → otherRow.Live resourceId → other = id := by
  unfold Desk.link
  cases hcall : desk.calls.lookup call with
  | none => simp [h]
  | some state =>
      cases state with
      | posting id body => simp [h]
      | linking id ticketId =>
          simp only [Option.some.injEq, TicketCall.linking.injEq]
          cases hrow : desk.table.rows.lookup id with
          | none =>
              have hsame : linkTicket desk.table id ticketId now = desk.table := updateRow_of_none hrow
              rw [hsame]
              refine ⟨?_, fun _ => h⟩
              rintro - found ticket row ⟨rfl, -⟩ hfound
              rw [hrow] at hfound
              cases hfound
          | some row =>
              rw [atMostOneLive_linkTicket h hrow]
              constructor
              · rintro hlink found ticket foundRow ⟨rfl, -⟩ hfound hresource
                obtain rfl := Option.some.inj (hrow.symm.trans hfound)
                exact hlink hresource
              · intro hlink
                exact hlink id ticketId row ⟨rfl, rfl⟩ hrow

-- One event keeps the resource with one live recommendation exactly if it meets the condition.
theorem atMostOneLive_step_iff (h : desk.table.AtMostOneLive resourceId) (event : PeriodEvent resourceId) :
    (desk.stepIn resourceName event).table.AtMostOneLive resourceId ↔ KeepsOneLive desk event := by
  cases event with
  | pass pass => exact atMostOneLive_pass pass h
  | createTicket call id =>
      simp only [stepIn, PeriodEvent.event, step, begin_keeps, KeepsOneLive, h]
  | posted call created answered =>
      simp only [stepIn, PeriodEvent.event, step, Desk.post, KeepsOneLive, iff_true]
      split <;> exact h
  | linked call now => exact atMostOneLive_link h call now
  | dropped call => exact iff_of_true h trivial
  | update id status now =>
      simp only [stepIn, PeriodEvent.event, step, updateRecommendation, KeepsOneLive, iff_true]
      split
      · rename_i htable
        split at htable
        · obtain rfl := Except.ok.inj htable
          refine h.close (fun row => ?_) id
          cases status <;> simp [PatchableStatus.status]
        · cases htable
      · exact h

-- Of the calls for the resource there is one at a time, and a ticket of it is in the hands of
-- that call or on a recommendation.
structure OnTurn (desk : Desk) (resourceId : Uuid) : Prop where
  rows : ∀ call state, desk.calls.lookup call = some state →
    ∃ row, desk.table.rows.lookup state.recommendationId = some row ∧
      ∀ id body, state = .posting id body → body.resourceId = row.resourceId
  single : ∀ call other state otherState, desk.calls.lookup call = some state →
    desk.calls.lookup other = some otherState → desk.table.OfResource state.recommendationId resourceId →
    desk.table.OfResource otherState.recommendationId resourceId → call = other
  issued : ∀ call id ticketId, desk.calls.lookup call = some (.linking id ticketId) → ticketId ∈ desk.ticketIds
  posting : ∀ call id body, desk.calls.lookup call = some (.posting id body) → body.resourceId = resourceId →
    desk.ticketsOf resourceId = 0
  atMost : desk.ticketsOf resourceId ≤ 1
  kept : 0 < desk.ticketsOf resourceId → desk.Linked resourceId ∨
    ∃ call id ticketId, desk.calls.lookup call = some (.linking id ticketId) ∧ desk.table.OfResource id resourceId

theorem onTurn_of_begins (h : desk.Begins resourceId) : desk.OnTurn resourceId := by
  obtain ⟨-, hcalls, htickets⟩ := h
  have hnone : desk.ticketsOf resourceId = 0 := by rw [ticketsOf, htickets]; rfl
  have hempty : ∀ call state, desk.calls.lookup call ≠ some state := by
    intro call state
    rw [hcalls, AList.lookup_empty]
    exact nofun
  exact {
    rows := fun call state hcall => absurd hcall (hempty call state)
    single := fun call _ state _ hcall => absurd hcall (hempty call state)
    issued := fun call _ _ hcall => absurd hcall (hempty call _)
    posting := fun _ _ _ _ _ => hnone
    atMost := by omega
    kept := fun hpos => by omega }

theorem OnTurn.ofResource (h : desk.OnTurn resourceId) {call : Uuid} {body : FromAlertBody}
    (hcall : desk.calls.lookup call = some (.posting id body)) :
    desk.table.OfResource id resourceId ↔ body.resourceId = resourceId := by
  obtain ⟨row, hrow, hbody⟩ := h.rows call _ hcall
  rw [hbody id body rfl]
  constructor
  · rintro ⟨found, hfound, hresource⟩
    obtain rfl := Option.some.inj (hrow.symm.trans hfound)
    exact hresource
  · exact fun hresource => ⟨row, hrow, hresource⟩

-- What changes in the table, as long as rows stay with their resources and tickets.
theorem OnTurn.withTable (h : desk.OnTurn resourceId) {after : Recommendations}
    (hrows : ∀ id row, desk.table.rows.lookup id = some row →
      ∃ later, after.rows.lookup id = some later ∧ later.resourceId = row.resourceId)
    (hlinked : desk.Linked resourceId → Linked { desk with table := after } resourceId) :
    OnTurn { desk with table := after } resourceId := by
  have hof : ∀ call state, desk.calls.lookup call = some state →
      (after.OfResource state.recommendationId resourceId ↔
        desk.table.OfResource state.recommendationId resourceId) := by
    intro call state hcall
    obtain ⟨row, hrow, -⟩ := h.rows call state hcall
    obtain ⟨later, hlater, hresource⟩ := hrows _ row hrow
    simp only [Recommendations.OfResource, hrow, hlater, Option.some.injEq, exists_eq_left', hresource]
  refine ⟨fun call state hcall => ?_, fun call other state otherState hcall hother hfirst hsecond => ?_, h.issued,
    h.posting, h.atMost, fun hpos => ?_⟩
  · obtain ⟨row, hrow, hbody⟩ := h.rows call state hcall
    obtain ⟨later, hlater, hresource⟩ := hrows _ row hrow
    exact ⟨later, hlater, fun id body hstate => (hbody id body hstate).trans hresource.symm⟩
  · exact h.single call other state otherState hcall hother ((hof call state hcall).mp hfirst)
      ((hof other otherState hother).mp hsecond)
  · obtain hlink | ⟨call, id, ticketId, hcall, hresource⟩ := h.kept hpos
    · exact .inl (hlinked hlink)
    · exact .inr ⟨call, id, ticketId, hcall, (hof call _ hcall).mpr hresource⟩

theorem OnTurn.keeps (h : desk.OnTurn resourceId) {after : Recommendations} (hkeeps : desk.table.Keeps after) :
    OnTurn { desk with table := after } resourceId := by
  refine h.withTable (fun id row hrow => ?_) ?_
  · obtain ⟨later, hlater, hresource, -⟩ := hkeeps id row hrow
    exact ⟨later, hlater, hresource⟩
  · rintro ⟨id, row, ticketId, hrow, hresource, hticket, hmem⟩
    obtain ⟨later, hlater, hsameResource, hsameTicket⟩ := hkeeps id row hrow
    exact ⟨id, later, ticketId, hlater, hsameResource.trans hresource, hsameTicket.trans hticket, hmem⟩

theorem lookup_of_erase {calls : Table Uuid TicketCall} {call other : Uuid} {state : TicketCall}
    (h : (calls.erase call).lookup other = some state) : other ≠ call ∧ calls.lookup other = some state := by
  by_cases hsame : other = call
  · subst hsame
    rw [AList.lookup_erase] at h
    cases h
  · rw [AList.lookup_erase_ne hsame] at h
    exact ⟨hsame, h⟩

theorem lookup_of_insert {calls : Table Uuid TicketCall} {call other : Uuid} {new state : TicketCall}
    (h : (calls.insert call new).lookup other = some state) :
    other = call ∧ state = new ∨ other ≠ call ∧ calls.lookup other = some state := by
  rw [Table.lookup_insert_eq] at h
  split_ifs at h with hsame
  · exact .inl ⟨hsame, (Option.some.inj h).symm⟩
  · exact .inr ⟨hsame, h⟩

-- A call ends that has no ticket of the resource, or has linked it.
theorem OnTurn.erase (h : desk.OnTurn resourceId) {call : Uuid}
    (hcall : ∀ id ticketId, desk.calls.lookup call = some (.linking id ticketId) →
      desk.table.OfResource id resourceId → desk.Linked resourceId) :
    OnTurn { desk with calls := desk.calls.erase call } resourceId := by
  refine ⟨fun other state hother => h.rows other state (lookup_of_erase hother).2,
    fun first second state secondState hfirst hsecond =>
      h.single first second state secondState (lookup_of_erase hfirst).2 (lookup_of_erase hsecond).2,
    fun other id ticketId hother => h.issued other id ticketId (lookup_of_erase hother).2,
    fun other id body hother => h.posting other id body (lookup_of_erase hother).2, h.atMost, fun hpos => ?_⟩
  obtain hlink | ⟨other, id, ticketId, hother, hresource⟩ := h.kept hpos
  · exact .inl hlink
  · by_cases hsame : other = call
    · subst hsame
      exact .inl (hcall id ticketId hother hresource)
    · exact .inr ⟨other, id, ticketId, by rwa [AList.lookup_erase_ne hsame], hresource⟩

theorem OnTurn.link (h : desk.OnTurn resourceId) (call : Uuid) (now : Nat) :
    (desk.link call now).OnTurn resourceId := by
  unfold Desk.link
  split
  · rename_i id ticketId hcall
    obtain ⟨row, hrow, -⟩ := h.rows call _ hcall
    have hrow : desk.table.rows.lookup id = some row := hrow
    have hrows : (linkTicket desk.table id ticketId now).rows = desk.table.rows.insert id
        { row with status := .ticketCreated, ticketId := some ticketId, updatedAt := now } :=
      rows_updateRow nofun hrow
    have hwritten : (linkTicket desk.table id ticketId now).rows.lookup id = some
        { row with status := .ticketCreated, ticketId := some ticketId, updatedAt := now } := by
      rw [hrows, AList.lookup_insert]
    have hother : ∀ other, other ≠ id →
        (linkTicket desk.table id ticketId now).rows.lookup other = desk.table.rows.lookup other := by
      intro other hne
      rw [hrows, AList.lookup_insert_ne hne]
    have hissued := h.issued call id ticketId hcall
    refine OnTurn.erase (h.withTable (fun other found hfound => ?_) ?_) ?_
    · by_cases hsame : other = id
      · subst hsame
        obtain rfl := Option.some.inj (hrow.symm.trans hfound)
        exact ⟨_, hwritten, rfl⟩
      · exact ⟨found, (hother other hsame).trans hfound, rfl⟩
    · rintro ⟨other, found, foundTicket, hfound, hresource, hticket, hmem⟩
      by_cases hsame : other = id
      · subst hsame
        obtain rfl := Option.some.inj (hrow.symm.trans hfound)
        exact ⟨other, _, ticketId, hwritten, hresource, rfl, hissued⟩
      · exact ⟨other, found, foundTicket, (hother other hsame).trans hfound, hresource, hticket, hmem⟩
    · rintro found foundTicket hfound ⟨foundRow, hfoundRow, hresource⟩
      obtain ⟨rfl, rfl⟩ := TicketCall.linking.inj (Option.some.inj (hcall.symm.trans hfound))
      obtain rfl := Option.some.inj (hwritten.symm.trans hfoundRow)
      exact ⟨id, _, ticketId, hwritten, hresource, rfl, hissued⟩
  · exact h

theorem ticketsOf_append (tickets : List (Uuid × FromAlertBody)) (table : Recommendations)
    (calls : Table Uuid TicketCall) (ticketId : Uuid) (body : FromAlertBody) :
    ticketsOf ⟨table, calls, tickets ++ [(ticketId, body)]⟩ resourceId =
      ticketsOf ⟨table, calls, tickets⟩ resourceId + if body.resourceId = resourceId then 1 else 0 := by
  by_cases hresource : body.resourceId = resourceId
  · simp [ticketsOf, List.filter_append, hresource]
  · simp [ticketsOf, List.filter_append, hresource]

theorem Linked.append {ticketId : Uuid} {body : FromAlertBody} (h : desk.Linked resourceId) :
    Linked { desk with tickets := desk.tickets ++ [(ticketId, body)] } resourceId := by
  obtain ⟨id, row, linked, hrow, hresource, hticket, hmem⟩ := h
  refine ⟨id, row, linked, hrow, hresource, hticket, ?_⟩
  rw [ticketIds, List.map_append]
  exact List.mem_append_left _ hmem

-- A ticket of another resource.
theorem OnTurn.append (h : desk.OnTurn resourceId) {ticketId : Uuid} {body : FromAlertBody}
    (hbody : body.resourceId ≠ resourceId) :
    OnTurn { desk with tickets := desk.tickets ++ [(ticketId, body)] } resourceId := by
  have hcount : ticketsOf { desk with tickets := desk.tickets ++ [(ticketId, body)] } resourceId =
      desk.ticketsOf resourceId := by
    rw [ticketsOf_append, if_neg hbody]
    rfl
  refine ⟨h.rows, h.single, fun call id linked hcall => ?_, fun call id body hcall hresource => ?_, ?_, fun hpos => ?_⟩
  · rw [ticketIds, List.map_append]
    exact List.mem_append_left _ (h.issued call id linked hcall)
  · exact hcount.trans (h.posting call id body hcall hresource)
  · exact hcount.trans_le h.atMost
  · exact (h.kept (hcount ▸ hpos)).imp_left Linked.append

-- The call has its answer.
theorem OnTurn.answered (h : desk.OnTurn resourceId) {call ticketId : Uuid} {body : FromAlertBody}
    (hcall : desk.calls.lookup call = some (.posting id body)) :
    OnTurn ⟨desk.table, desk.calls.insert call (.linking id ticketId), desk.tickets ++ [(ticketId, body)]⟩
      resourceId := by
  have hbefore : ∀ other state, (desk.calls.insert call (.linking id ticketId)).lookup other = some state →
      ∃ old, desk.calls.lookup other = some old ∧ old.recommendationId = state.recommendationId := by
    intro other state hother
    obtain ⟨rfl, rfl⟩ | ⟨-, hold⟩ := lookup_of_insert hother
    · exact ⟨.posting id body, hcall, rfl⟩
    · exact ⟨state, hold, rfl⟩
  have hcount : ticketsOf ⟨desk.table, desk.calls.insert call (.linking id ticketId),
      desk.tickets ++ [(ticketId, body)]⟩ resourceId =
        desk.ticketsOf resourceId + if body.resourceId = resourceId then 1 else 0 := ticketsOf_append ..
  refine ⟨fun other state hother => ?_, fun first second state secondState hfirst hsecond => ?_,
    fun other otherId otherTicket hother => ?_, fun other otherId otherBody hother hresource => ?_, ?_, fun hpos => ?_⟩
  · obtain ⟨-, rfl⟩ | ⟨-, hold⟩ := lookup_of_insert hother
    · obtain ⟨row, hrow, -⟩ := h.rows call _ hcall
      refine ⟨row, hrow, fun otherId otherBody hstate => ?_⟩
      cases hstate
    · exact h.rows other state hold
  · obtain ⟨old, hold, hid⟩ := hbefore first state hfirst
    obtain ⟨secondOld, hsecondOld, hsecondId⟩ := hbefore second secondState hsecond
    rw [← hid, ← hsecondId]
    exact h.single first second old secondOld hold hsecondOld
  · rw [ticketIds, List.map_append, List.mem_append]
    obtain ⟨-, hstate⟩ | ⟨-, hold⟩ := lookup_of_insert hother
    · obtain ⟨-, rfl⟩ := TicketCall.linking.inj hstate
      exact .inr (List.mem_singleton.mpr rfl)
    · exact .inl (h.issued other otherId otherTicket hold)
  · obtain ⟨-, hstate⟩ | ⟨hne, hold⟩ := lookup_of_insert hother
    · cases hstate
    · have hbody : body.resourceId ≠ resourceId := fun hbody => hne (h.single other call _ _ hold hcall
        ((h.ofResource hold).mpr hresource) ((h.ofResource hcall).mpr hbody))
      rw [hcount, if_neg hbody, h.posting other otherId otherBody hold hresource]
  · by_cases hbody : body.resourceId = resourceId
    · rw [hcount, if_pos hbody, h.posting call id body hcall hbody]
    · rw [hcount, if_neg hbody]
      exact h.atMost
  · by_cases hbody : body.resourceId = resourceId
    · exact .inr ⟨call, id, ticketId, AList.lookup_insert _, (h.ofResource hcall).mpr hbody⟩
    · rw [hcount, if_neg hbody] at hpos
      obtain hlink | ⟨other, otherId, otherTicket, hother, hresource⟩ := h.kept hpos
      · exact .inl hlink.append
      · have hne : other ≠ call := by
          rintro rfl
          cases hcall.symm.trans hother
        exact .inr ⟨other, otherId, otherTicket, (AList.lookup_insert_ne hne).trans hother, hresource⟩

theorem OnTurn.post (h : desk.OnTurn resourceId) (call : Uuid) (created : Option Uuid) (answered : Bool)
    (hturn : ∀ id body, desk.calls.lookup call = some (.posting id body) → body.resourceId = resourceId →
      created.isSome = true → answered = true) : (desk.post call created answered).OnTurn resourceId := by
  unfold Desk.post
  split
  · rename_i id body hcall
    have hnotLinking : ∀ found ticketId, desk.calls.lookup call ≠ some (.linking found ticketId) := by
      intro found ticketId hfound
      cases hcall.symm.trans hfound
    cases created with
    | none =>
        have hended : OnTurn { desk with calls := desk.calls.erase call } resourceId :=
          h.erase fun found ticketId hfound => absurd hfound (hnotLinking found ticketId)
        simpa [ticketAnswered] using hended
    | some ticketId =>
        cases answered with
        | true => exact h.answered hcall
        | false =>
            have hbody : body.resourceId ≠ resourceId := fun hbody =>
              Bool.false_ne_true (hturn id body hcall hbody rfl)
            exact (h.append hbody).erase fun found ticketId hfound => absurd hfound (hnotLinking found ticketId)
  · exact h

theorem createTicket_posts {body : FromAlertBody} (h : createTicket resourceName table id = .ok (.inr body)) :
    ∃ row, table.rows.lookup id = some row ∧ body.resourceId = row.resourceId := by
  unfold createTicket at h
  cases hrow : table.rows.lookup id with
  | none =>
      rw [hrow] at h
      cases h
  | some row =>
      refine ⟨row, rfl, ?_⟩
      rw [hrow] at h
      cases hname : resourceName row.resourceId with
      | none =>
          simp only [Option.bind_some, hname, Option.map_none] at h
          cases h
      | some name =>
          simp only [Option.bind_some, hname, Option.map_some] at h
          split at h
          · cases h
          · split_ifs at h
            cases h
            rfl

-- A call of the resource begins where there is no other and no ticket.
theorem OnTurn.begin (h : desk.OnTurn resourceId) (call id : Uuid)
    (hturn : TakesTurns resourceName desk (.createTicket call id : PeriodEvent resourceId)) :
    (desk.begin resourceName call id).OnTurn resourceId := by
  unfold Desk.begin
  split
  · rename_i body hcreate
    split_ifs with hbusy
    · exact h
    obtain ⟨row, hrow, hbody⟩ := createTicket_posts hcreate
    have hnone : body.resourceId = resourceId → desk.ticketsOf resourceId = 0 := by
      intro hresource
      obtain ⟨hidle, hunlinked⟩ := hturn body hcreate hbusy hresource
      by_contra hpos
      obtain hlink | ⟨other, otherId, ticketId, hother, hof⟩ := h.kept (Nat.pos_of_ne_zero hpos)
      · exact hunlinked hlink
      · exact hidle other _ hother hof
    have hfirst : ∀ other state, desk.calls.lookup other = some state →
        desk.table.OfResource state.recommendationId resourceId → ¬ desk.table.OfResource id resourceId := by
      rintro other state hother hof ⟨found, hfound, hresource⟩
      obtain rfl := Option.some.inj (hrow.symm.trans hfound)
      exact (hturn body hcreate hbusy (hbody.trans hresource)).1 other state hother hof
    refine ⟨fun other state hother => ?_, fun first second state secondState hone htwo hof hsecondOf => ?_,
      fun other otherId ticketId hother => ?_, fun other otherId otherBody hother hresource => ?_, h.atMost,
      fun hpos => ?_⟩
    · obtain ⟨-, rfl⟩ | ⟨-, hother⟩ := lookup_of_insert hother
      · refine ⟨row, hrow, fun otherId otherBody hstate => ?_⟩
        obtain ⟨-, rfl⟩ := TicketCall.posting.inj hstate
        exact hbody
      · exact h.rows other state hother
    · obtain ⟨rfl, rfl⟩ | ⟨-, hold⟩ := lookup_of_insert hone
      · obtain ⟨rfl, -⟩ | ⟨-, hold⟩ := lookup_of_insert htwo
        · rfl
        · exact absurd hof (hfirst second secondState hold hsecondOf)
      · obtain ⟨rfl, rfl⟩ | ⟨-, hother⟩ := lookup_of_insert htwo
        · exact absurd hsecondOf (hfirst first state hold hof)
        · exact h.single first second state secondState hold hother hof hsecondOf
    · obtain ⟨-, hstate⟩ | ⟨-, hother⟩ := lookup_of_insert hother
      · cases hstate
      · exact h.issued other otherId ticketId hother
    · obtain ⟨-, hstate⟩ | ⟨-, hother⟩ := lookup_of_insert hother
      · obtain ⟨-, rfl⟩ := TicketCall.posting.inj hstate
        exact hnone hresource
      · exact h.posting other otherId otherBody hother hresource
    · refine (h.kept hpos).imp_right ?_
      rintro ⟨other, otherId, ticketId, hother, hof⟩
      have hne : other ≠ call := by
        rintro rfl
        exact hbusy (Table.mem_of_lookup hother)
      exact ⟨other, otherId, ticketId, (AList.lookup_insert_ne hne).trans hother, hof⟩
  · exact h
  · exact h

theorem onTurn_step (h : desk.OnTurn resourceId) (event : PeriodEvent resourceId)
    (hturn : TakesTurns resourceName desk event) : (desk.stepIn resourceName event).OnTurn resourceId := by
  cases event with
  | pass pass => exact h.keeps (sweep_keeps _ _ _)
  | createTicket call id => exact h.begin call id hturn
  | posted call created answered => exact h.post call created answered hturn
  | linked call now => exact h.link call now
  | dropped call => exact h.erase fun id ticketId hcall hresource => absurd hresource (hturn id ticketId hcall)
  | update id status now =>
      simp only [stepIn, PeriodEvent.event, step, updateRecommendation]
      split
      · rename_i htable
        split at htable
        · obtain rfl := Except.ok.inj htable
          refine h.keeps (updateRow_keeps (fun row => ?_) id)
          cases status <;> simp [PatchableStatus.status]
        · cases htable
      · exact h

end Desk

-- In a period in which every pass finds the resource under-utilised, it has at most one live
-- recommendation all the time in exactly the runs whose every event meets the condition, and
-- at most one ticket in those in which the calls for it take turns.
theorem one_ticket_of_turns (resourceName : Uuid → Option String) (desk : Desk) (h : desk.Begins resourceId)
    (events : List (PeriodEvent resourceId)) :
    (Runs.Always (Desk.stepIn resourceName) (fun state => state.table.AtMostOneLive resourceId) desk events ↔
      Runs.AllSteps (Desk.stepIn resourceName) KeepsOneLive desk events) ∧
      (Runs.AllSteps (Desk.stepIn resourceName) (TakesTurns resourceName) desk events →
        Runs.Always (Desk.stepIn resourceName) (fun state => state.ticketsOf resourceId ≤ 1) desk events) := by
  constructor
  · exact Runs.always_iff_allSteps events h.live (fun _ hstate => hstate)
      (fun _ event hstate hcondition => (Desk.atMostOneLive_step_iff hstate event).mpr hcondition)
      (fun _ event hstate hafter => (Desk.atMostOneLive_step_iff hstate event).mp hafter)
  · intro hturns
    have hinvariant : Runs.Always (Desk.stepIn resourceName) (fun state => state.OnTurn resourceId) desk events :=
      Runs.invariant (Desk.onTurn_of_begins h) (fun _ event hstate hturn => Desk.onTurn_step hstate event hturn) hturns
    exact hinvariant.mono fun _ hstate => hstate.atMost

-- A server that averages 3 % at every pass.
def idlePass : UnderUtilisedPass 7 where
  reads := readings [⟨1, 0, some (some "3")⟩]
  monitors := [⟨1, 7, "web-1"⟩]
  found := by decide +kernel
  noneHealthy := by decide +kernel

def newDesk : Desk := ⟨.empty, ∅, []⟩

theorem newDesk_begins : newDesk.Begins 7 := by
  refine ⟨fun id other row otherRow hrow => ?_, rfl, rfl⟩
  simp [newDesk, Recommendations.empty] at hrow

def webName : Uuid → Option String := fun _ => some "web-1"

-- Its recommendation is opened, refreshed, linked to a ticket and dismissed.
def clickedOnce : List (PeriodEvent 7) :=
  [.pass idlePass, .pass idlePass, .createTicket 1 1, .posted 1 (some 10) true, .linked 1 1000,
    .update 1 .dismissed 1000, .pass idlePass]

theorem clickedOnce_one_ticket :
    Runs.Always (Desk.stepIn webName) (fun state => state.table.AtMostOneLive 7) newDesk clickedOnce ∧
      Runs.Always (Desk.stepIn webName) (fun state => state.ticketsOf 7 ≤ 1) newDesk clickedOnce := by
  refine ⟨(one_ticket_of_turns webName newDesk newDesk_begins clickedOnce).1.mpr ?_,
    (one_ticket_of_turns webName newDesk newDesk_begins clickedOnce).2 ?_⟩
  · have hlinked : KeepsOneLive (Runs.run (Desk.stepIn webName) newDesk (clickedOnce.take 4))
        (.linked 1 1000 : PeriodEvent 7) := by
      intro id ticketId row hcall hrow _ other otherRow hother _
      have hkeys : (Runs.run (Desk.stepIn webName) newDesk (clickedOnce.take 4)).table.rows.keys = [1] := by
        decide +kernel
      have honly : ∀ found, found ∈ (Runs.run (Desk.stepIn webName) newDesk (clickedOnce.take 4)).table.rows →
          found = 1 := by
        intro found hfound
        rw [AList.mem_keys, hkeys] at hfound
        exact List.mem_singleton.mp hfound
      rw [honly id (Table.mem_of_lookup hrow), honly other (Table.mem_of_lookup hother)]
    refine ⟨fun _ => ?_, fun _ => ?_, trivial, trivial, hlinked, trivial, fun _ => ?_, trivial⟩
    · decide +kernel
    · decide +kernel
    · decide +kernel
  · refine ⟨trivial, trivial, fun body _ _ _ => ⟨fun other state hother => ?_, ?_⟩, fun _ _ _ _ _ => rfl, trivial,
      trivial, trivial, trivial⟩
    · cases hother
    · rintro ⟨id, row, ticketId, -, -, -, hmem⟩
      cases hmem

-- Two calls read the recommendation before either of them has its ticket.
def clickedTwice : List (PeriodEvent 7) :=
  [.pass idlePass, .createTicket 1 1, .createTicket 2 1, .posted 1 (some 10) true, .posted 2 (some 11) true]

-- The next pass does not see a recommendation that has its ticket.
def sweptAfterTicket : List (PeriodEvent 7) :=
  [.pass idlePass, .createTicket 1 1, .posted 1 (some 10) true, .linked 1 1000, .pass idlePass]

theorem two_tickets_and_two_live :
    ¬ Runs.Always (Desk.stepIn webName) (fun state => state.OneTicket 7) newDesk clickedTwice ∧
    ¬ Runs.Always (Desk.stepIn webName) (fun state => state.OneTicket 7) newDesk sweptAfterTicket := by
  constructor
  · intro h
    have htickets : (Runs.run (Desk.stepIn webName) newDesk clickedTwice).ticketsOf 7 = 2 := by decide +kernel
    have hone := h.last.2
    omega
  · intro h
    have hlive : ∀ id ∈ [1, 2], ((Runs.run (Desk.stepIn webName) newDesk sweptAfterTicket).table.rows.lookup
        id).any (fun row => decide (row.Live 7)) = true := by
      decide +kernel
    simp only [Option.any_eq_true, decide_eq_true_eq] at hlive
    obtain ⟨row, hrow, hrowLive⟩ := hlive 1 (by simp)
    obtain ⟨other, hother, hotherLive⟩ := hlive 2 (by simp)
    have hsame := h.last.1 1 2 row other hrow hother hrowLive hotherLive
    cases hsame

end CloudOps.Cost
