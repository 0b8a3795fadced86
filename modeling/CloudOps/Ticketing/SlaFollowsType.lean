import CloudOps.Ticketing.OverdueSystem
import CloudOps.Ticketing.ResolvedAt

namespace CloudOps.Ticketing

open CloudOps.ReadCommitted CloudOps.Transaction

variable (env : Environment) (runtime : Runtime)

-- The SLA columns are those of the ticket's current type.
structure FollowsType (store : TicketStore) (ticket : Ticket) : Prop where
  slaPolicyId : ticket.slaPolicyId = defaultSlaPolicyId store ticket.ticketTypeId
  due : SlaDueDates.mk ticket.firstResponseDueAt ticket.resolutionDueAt =
    calculateDueDates env ticket.createdAt
      (fetchSlaPolicy store (defaultSlaPolicyId store ticket.ticketTypeId)) store.businessHours

def SlaFollowsType (store : TicketStore) : Prop := AllTickets (FollowsType env store) store

-- The ticket type that an answer suggests, one of the tenant's.
def suggestedTypeId (desk : HelpDesk) (reply : AiReply) (order : ScanOrder String) : Option Uuid :=
  match reply with
  | .disabled | .failed => none
  | .completed raw =>
      let suggestion := HelpDesk.parseSuggestion runtime raw (HelpDesk.loadAllowlists env order desk)
      ((suggestion.typeId.filter fun text => text ≠ "").bind env.castUuid).filter fun id =>
        decide (id ∈ desk.ticketTypes)

-- The call is no triage that applies, to a ticket it finds, a type with another
-- default policy than the ticket's own type has.
def KeepsPolicy (desk : HelpDesk) : HelpDeskCall → Prop
  | .triageTicket ticketId reply order =>
      desk.getTriageMode = .apply → ∀ row ∈ desk.tickets.lookup ticketId,
        ∀ typeId ∈ suggestedTypeId env runtime desk reply order,
          defaultSlaPolicyId desk.toTicketStore (some typeId) =
            defaultSlaPolicyId desk.toTicketStore row.ticketTypeId
  | .tickets _ | .applyScenario .. | .sweepTenant .. | .importTicket .. => True

instance (desk : HelpDesk) : DecidablePred (KeepsPolicy env runtime desk)
  | .triageTicket ticketId reply order =>
      inferInstanceAs (Decidable (desk.getTriageMode = .apply → ∀ row ∈ desk.tickets.lookup ticketId,
        ∀ typeId ∈ suggestedTypeId env runtime desk reply order,
          defaultSlaPolicyId desk.toTicketStore (some typeId) =
            defaultSlaPolicyId desk.toTicketStore row.ticketTypeId))
  | .tickets _ | .applyScenario .. | .sweepTenant .. | .importTicket .. => isTrue trivial

def HelpDeskCall.isImport : HelpDeskCall → Bool
  | importTicket .. => true
  | tickets _ | applyScenario .. | sweepTenant .. | triageTicket .. => false

-- The calls but for imports, which leave the SLA columns empty.
abbrev LocalCall := { call : HelpDeskCall // call.isImport = false }

def HelpDesk.stepLocal (desk : HelpDesk) (call : LocalCall) : HelpDesk := desk.step env runtime call.1

-- Business hours are only read for a policy that counts them.
theorem calculateDueDates_fetchBusinessHours (store : TicketStore) (createdAt : Nat)
    (slaPolicy : Option SlaTargets) :
    calculateDueDates env createdAt slaPolicy (fetchBusinessHours store slaPolicy) =
      calculateDueDates env createdAt slaPolicy store.businessHours := by
  cases slaPolicy with
  | none => rfl
  | some policy =>
      have hfilter : ((fetchBusinessHours store (some policy)).filter fun _ => policy.businessHoursOnly) =
          store.businessHours.filter fun _ => policy.businessHoursOnly := by
        cases honly : policy.businessHoursOnly <;> simp [fetchBusinessHours, honly]
      simp only [calculateDueDates, hfilter]

theorem followsType_iff {store : TicketStore} {ticket : Ticket} : FollowsType env store ticket ↔
    ticket.slaAssignment = slaOfType env store ticket.createdAt ticket.ticketTypeId := by
  simp only [slaOfType, Ticket.slaAssignment, calculateDueDates_fetchBusinessHours, SlaAssignment.mk.injEq]
  exact ⟨fun h => ⟨h.slaPolicyId, h.due⟩, fun h => ⟨h.1, h.2⟩⟩

-- It depends on the type, the creation time and the SLA columns only.
theorem FollowsType.congr {env : Environment} {store : TicketStore} {row other : Ticket}
    (h : FollowsType env store row) (hcreated : other.createdAt = row.createdAt)
    (htype : other.ticketTypeId = row.ticketTypeId) (hsla : other.slaAssignment = row.slaAssignment) :
    FollowsType env store other := by
  rw [followsType_iff] at h ⊢
  rw [hcreated, htype, hsla]
  exact h

-- Two types with one default policy have the same SLA columns.
theorem slaOfType_of_policy {store : TicketStore} {first second : Option Uuid}
    (h : defaultSlaPolicyId store first = defaultSlaPolicyId store second) (createdAt : Nat) :
    slaOfType env store createdAt first = slaOfType env store createdAt second := by
  simp only [slaOfType, h]

theorem followsType_written {store : TicketStore} {row written : Ticket} (h : FollowsType env store row)
    (hwrite : RowWrite env row written) : FollowsType env store written := by
  cases hwrite with
  | assigned now value field set row hset => cases hset <;> exact h.congr rfl rfl rfl
  | tagged row tags now => exact h.congr rfl rfl rfl
  | merged row primaryKey now => exact h.congr rfl rfl rfl

theorem newTicket_followsType {store : TicketStore} {now : Nat} {ticket : Ticket}
    (h : NewTicket env store now ticket) : FollowsType env store ticket := by
  rw [followsType_iff, h.createdAt]
  exact h.sla

-- The columns are recalculated for the type the request leaves, unless its policy is
-- the one the ticket has.
theorem recalculateSla_eq (store : TicketStore) (existing : Ticket) {patch : Patch (String × Uuid)}
    (h : patch ≠ .undefined) :
    recalculateSla env store existing patch =
      let sla := slaOfType env store existing.createdAt (patchedId patch existing.ticketTypeId)
      if sla.slaPolicyId = existing.slaPolicyId then none else some sla := by
  have hfilter : ∀ policy : Option Uuid, ((some policy).filter fun other => other ≠ existing.slaPolicyId) =
      if policy = existing.slaPolicyId then none else some policy := by
    intro policy
    by_cases hsame : policy = existing.slaPolicyId
    · simp [hsame]
    · simp [hsame, Option.filter_some]
  have hmap : ∀ (policy : Option Uuid) (recalculate : Option Uuid → SlaAssignment),
      ((some policy).filter fun other => other ≠ existing.slaPolicyId).map recalculate =
        if policy = existing.slaPolicyId then none else some (recalculate policy) := by
    intro policy recalculate
    rw [hfilter]
    split
    · rfl
    · rfl
  cases patch with
  | undefined => exact absurd rfl h
  | null => exact hmap none _
  | value pair => exact hmap ((store.ticketTypes.lookup pair.2).bind TicketType.defaultSlaPolicyId) _

theorem updated_followsType {id : String} {dto : UpdateTicketDto} {now : Nat} {before : TicketStore}
    {key : Uuid} {existing : Ticket} {edits : Edits} (hedits : EditsFor env id dto now before key existing edits)
    (h : FollowsType env before existing) : FollowsType env before (edits.updated now existing) := by
  obtain ⟨customFields, hrow⟩ := hedits.updated_eq
  rw [hrow]
  generalize dto.ticketTypeId.resolve env = patch
  by_cases hundefined : patch = .undefined
  · subst hundefined
    exact h.congr rfl rfl rfl
  · rw [recalculateSla_eq env before existing hundefined]
    rw [followsType_iff] at h ⊢
    dsimp only
    split
    · rename_i hsame
      have hpolicy : defaultSlaPolicyId before existing.ticketTypeId = existing.slaPolicyId :=
        (congrArg SlaAssignment.slaPolicyId h).symm
      rw [← hpolicy] at hsame
      exact h.trans (slaOfType_of_policy env hsame.symm existing.createdAt)
    · rfl

-- What every reached store has, with the configuration of the first.
def FollowsTypeUnder (base store : TicketStore) : Prop :=
  Agree TicketStore.slaConfig base store ∧ AllTickets (FollowsType env base) store

theorem followsType_config {base store : TicketStore} (h : Agree TicketStore.slaConfig base store)
    {ticket : Ticket} : FollowsType env store ticket ↔ FollowsType env base ticket := by
  rw [followsType_iff, followsType_iff, slaOfType_congr env h]

theorem FollowsTypeUnder.slaFollowsType {base store : TicketStore} (h : FollowsTypeUnder env base store) :
    SlaFollowsType env store :=
  fun id ticket hl => (followsType_config env h.1).mpr (h.2 id ticket hl)

theorem followsTypeUnder_rows (base : TicketStore) : RowsKeep env (FollowsTypeUnder env base) where
  elsewhere h htickets hconfig := ⟨trans_of _ h.1 hconfig, h.2.of_tickets htickets⟩
  written _ id row _ h hl hwrite := ⟨h.1, h.2.insert rfl (followsType_written env (h.2 id row hl) hwrite)⟩

-- The types that triage sets are those that are suggested.
theorem suggestedTypeId_of_applies {desk : HelpDesk} {ticketId : Uuid} {reply : AiReply}
    {order : ScanOrder String} {row : Ticket} {suggestion : TriageSuggestion}
    {priority : Option TicketPriority} {newTypeId : Option Uuid}
    (happlies : Applies env runtime desk ticketId reply order row suggestion)
    (hsuggested : Suggested env desk.toTicketStore suggestion priority newTypeId) :
    suggestedTypeId env runtime desk reply order = newTypeId := by
  obtain ⟨raw, rfl, rfl⟩ := happlies.reply
  have htype := hsuggested.ticketTypeId
  have hknown := hsuggested.known
  unfold suggestedTypeId
  dsimp only
  cases htext : (HelpDesk.parseSuggestion runtime raw
      (HelpDesk.loadAllowlists env order desk)).typeId.filter fun text => text ≠ "" with
  | none =>
      rw [htext, Option.map_none, Option.map_eq_none_iff] at htype
      rw [htype]
      rfl
  | some text =>
      rw [htext, Option.map_some, Option.map_eq_some_iff] at htype
      obtain ⟨id, rfl, hid⟩ := htype
      rw [Option.bind_some, ← hid, Option.filter_some, if_pos]
      exact decide_eq_true (hknown id rfl)

theorem suggestedRow_followsType {store : TicketStore} {row : Ticket} (h : FollowsType env store row)
    (priority : Option TicketPriority) (newTypeId : Option Uuid) (tags : List String)
    (hpolicy : ∀ typeId ∈ newTypeId,
      defaultSlaPolicyId store (some typeId) = defaultSlaPolicyId store row.ticketTypeId) :
    FollowsType env store (suggestedRow priority newTypeId tags row) := by
  cases newTypeId with
  | none => exact h.congr rfl rfl rfl
  | some typeId =>
      rw [followsType_iff] at h ⊢
      exact h.trans (slaOfType_of_policy env (hpolicy typeId rfl).symm row.createdAt)

-- Triage that keeps the policy leaves the columns right.
theorem triage_followsType {base : TicketStore} {desk : HelpDesk} {ticketId : Uuid} {reply : AiReply}
    {order : ScanOrder String} (h : FollowsTypeUnder env base desk.toTicketStore)
    (hkeeps : KeepsPolicy env runtime desk (.triageTicket ticketId reply order)) {after : TicketStore}
    (hwrite : TriageWrite env runtime desk ticketId reply order after) : FollowsTypeUnder env base after := by
  cases hwrite with
  | kept hnot => exact h
  | applied row suggestion priority newTypeId after happlies hsuggested hwritten =>
      have hrow := (followsType_config env h.1).mpr (h.2 ticketId row happlies.row)
      have hafter : FollowsType env desk.toTicketStore (suggestedRow priority newTypeId suggestion.tags row) := by
        apply suggestedRow_followsType env hrow
        rw [← suggestedTypeId_of_applies env runtime happlies hsuggested]
        exact hkeeps happlies.mode row happlies.row
      refine ⟨?_, h.2.written hwritten ((followsType_config env h.1).mp hafter)⟩
      rcases hwritten.rest with rfl | rfl
      · exact h.1
      · exact h.1

-- Triage that sets a type with another policy leaves the columns wrong.
theorem keepsPolicy_of_triage {base : TicketStore} {desk : HelpDesk} {ticketId : Uuid} {reply : AiReply}
    {order : ScanOrder String} (h : FollowsTypeUnder env base desk.toTicketStore)
    (hafter : SlaFollowsType env (desk.step env runtime (.triageTicket ticketId reply order)).toTicketStore) :
    KeepsPolicy env runtime desk (.triageTicket ticketId reply order) := by
  intro hmode row hrow typeId htypeId
  cases reply with
  | disabled => cases htypeId
  | failed => cases htypeId
  | completed raw =>
      have happlies : Applies env runtime desk ticketId (.completed raw) order row
          (HelpDesk.parseSuggestion runtime raw (HelpDesk.loadAllowlists env order desk)) :=
        ⟨hmode, ⟨raw, rfl, rfl⟩, hrow⟩
      obtain ⟨hbound, hknown⟩ := Option.mem_filter_iff.mp htypeId
      obtain ⟨text, htext, hcast⟩ := Option.bind_eq_some_iff.mp hbound
      obtain ⟨hsuggestion, -⟩ := Option.filter_eq_some_iff.mp htext
      have hcommits := triageTicket_commits happlies fun other hother _ => by
        obtain rfl := Option.some.inj (hsuggestion.symm.trans hother)
        exact ⟨typeId, hcast, of_decide_eq_true hknown⟩
      obtain ⟨_, after, hstep, hwrite⟩ :=
        hcommits.ensures (triageTicket_ensures runtime ticketId (.completed raw) order desk)
      rw [HelpDesk.step, hstep] at hafter
      generalize after.toTicketStore = store at hwrite hafter
      cases hwrite with
      | kept hnot => exact absurd happlies (hnot _ _)
      | applied row' suggestion priority newTypeId store happlies' hsuggested hwritten =>
          obtain rfl := Option.some.inj (hrow.symm.trans happlies'.row)
          have hnew := suggestedTypeId_of_applies env runtime happlies' hsuggested
          rw [show suggestedTypeId env runtime desk (.completed raw) order = some typeId from htypeId] at hnew
          subst hnew
          have hconfig : Agree TicketStore.slaConfig desk.toTicketStore store := by
            rcases hwritten.rest with rfl | rfl
            · rfl
            · rfl
          have hbefore := (followsType_config env h.1).mpr (h.2 ticketId row hrow)
          have hrowAfter := (followsType_config env hconfig).mp (hafter ticketId _ hwritten.found)
          exact hrowAfter.slaPolicyId.symm.trans hbefore.slaPolicyId

theorem FollowsTypeUnder.step {base : TicketStore} {desk : HelpDesk}
    (h : FollowsTypeUnder env base desk.toTicketStore) (call : LocalCall)
    (hkeeps : KeepsPolicy env runtime desk call.1) :
    FollowsTypeUnder env base (desk.stepLocal env runtime call).toTicketStore := by
  have hrows := followsTypeUnder_rows env base
  obtain ⟨call, hlocal⟩ := call
  cases call with
  | tickets call =>
      cases call with
      | create dto newIds now =>
          refine (hrows.create dto newIds now fun store ticket hstore hticket => ?_).commit _ h
          have hnew := (followsType_config env hstore.1).mp (newTicket_followsType env hticket)
          exact ⟨hstore.1, hstore.2.insert rfl hnew⟩
      | update id dto actorAgentId now =>
          refine (hrows.update id dto actorAgentId now fun store key existing edits hstore hedits => ?_).commit _ h
          have hexisting := (followsType_config env hstore.1).mpr (hstore.2 key existing hedits.row)
          have hupdated := (followsType_config env hstore.1).mp (updated_followsType env hedits hexisting)
          exact ⟨hstore.1, hstore.2.insert rfl hupdated⟩
      | merge primaryId sourceTicketIds now => exact (hrows.merge primaryId sourceTicketIds now).commit _ h
  | applyScenario scenarioId ticketId now => exact (hrows.applyScenario scenarioId ticketId now).commit _ h
  | sweepTenant order now => exact (hrows.sweepTenant order now).commit _ h
  | importTicket ticket context newIds => cases hlocal
  | triageTicket ticketId reply order =>
      have htriage : Ensures (HelpDesk.triageTicket env runtime ticketId reply order) desk
          fun _ after => FollowsTypeUnder env base after.toTicketStore :=
        (triageTicket_ensures runtime ticketId reply order desk).mono fun _ _ hwrite =>
          triage_followsType env runtime h hkeeps hwrite
      exact htriage.commit h

-- The SLA columns follow the tickets' types in exactly the runs in which triage
-- applies no type with another default policy than the ticket's type has.
theorem sla_follows_type_iff (desk : HelpDesk) (hstart : SlaFollowsType env desk.toTicketStore)
    (calls : List LocalCall) :
    Runs.Always (HelpDesk.stepLocal env runtime) (fun desk => SlaFollowsType env desk.toTicketStore) desk calls ↔
      Runs.AllSteps (HelpDesk.stepLocal env runtime) (fun desk call => KeepsPolicy env runtime desk call.1)
        desk calls := by
  have hinv : OfDesk (FollowsTypeUnder env desk.toTicketStore) desk := ⟨rfl, hstart⟩
  apply Runs.always_iff_allSteps calls hinv
  · exact fun _ h => h.slaFollowsType
  · exact fun _ call h hkeeps => h.step env runtime call hkeeps
  · intro state call h hafter
    obtain ⟨call, hlocal⟩ := call
    cases call with
    | triageTicket ticketId reply order => exact keepsPolicy_of_triage env runtime h hafter
    | importTicket ticket context newIds => cases hlocal
    | tickets | applyScenario | sweepTenant => trivial

def typeAnswer (typeId : String) : String := "\x7b\"typeId\": \"" ++ typeId ++ "\"\x7d"

-- Reads the two answers there are about types.
def typeRuntime : Runtime where
  sanitizeHtml body := body
  parseDate _ := none
  parseObject text :=
    if text = typeAnswer urgentTypeId then some [("typeId", .string urgentTypeId)]
    else if text = typeAnswer routineTypeId then some [("typeId", .string routineTypeId)]
    else none

def triagedDesk : HelpDesk := { newTenant with toTicketStore := desk }

def createUrgent : LocalCall := ⟨.tickets (.create urgentTicket ⟨7, 6⟩ 0), rfl⟩

def triageAs (typeId : String) : LocalCall :=
  ⟨.triageTicket 6 (.completed (typeAnswer typeId)) (.stored String), rfl⟩

theorem triagedDesk_follows : SlaFollowsType deskIds triagedDesk.toTicketStore := by
  intro id ticket hl
  simp [triagedDesk, desk] at hl

theorem sameType_follows :
    Runs.Always (HelpDesk.stepLocal deskIds typeRuntime)
      (fun desk => SlaFollowsType deskIds desk.toTicketStore) triagedDesk
      [createUrgent, triageAs urgentTypeId] :=
  (sla_follows_type_iff deskIds typeRuntime triagedDesk triagedDesk_follows _).mpr (by decide +kernel)

-- The answer makes the urgent ticket a routine one; its policy stays the urgent one.
theorem routine_answer_keeps_urgent_policy :
    ¬ Runs.Always (HelpDesk.stepLocal deskIds typeRuntime)
      (fun desk => SlaFollowsType deskIds desk.toTicketStore) triagedDesk
      [createUrgent, triageAs routineTypeId] := by
  intro h
  let after := (triagedDesk.stepLocal deskIds typeRuntime createUrgent).stepLocal deskIds typeRuntime
    (triageAs routineTypeId)
  have hafter : SlaFollowsType deskIds after.toTicketStore := h.2.2
  have hfound : (after.tickets.lookup 6).isSome := by decide +kernel
  obtain ⟨row, hrow⟩ := Option.isSome_iff_exists.mp hfound
  have hpolicy : (after.tickets.lookup 6).bind Ticket.slaPolicyId = some 4 := by decide +kernel
  have hdefault : (after.tickets.lookup 6).bind (fun row =>
      defaultSlaPolicyId after.toTicketStore row.ticketTypeId) = some 5 := by decide +kernel
  rw [hrow, Option.bind_some] at hpolicy hdefault
  have hsame := (hafter 6 row hrow).slaPolicyId
  rw [hpolicy, hdefault] at hsame
  exact absurd hsame (by decide)

end CloudOps.Ticketing
