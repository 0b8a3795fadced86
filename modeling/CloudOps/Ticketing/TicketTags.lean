import CloudOps.Ticketing.ResolvedAt
import CloudOps.Ticketing.RuleEffects
import Mathlib.Data.List.DropRight

namespace CloudOps.Ticketing

open CloudOps.ReadCommitted CloudOps.Transaction

section TagSets

-- Not empty, and without white space at either end.
def CleanTag (tag : String) : Prop :=
  tag ≠ "" ∧ (tag.toList.head?.any isWhiteSpace = false ∧ tag.toList.getLast?.any isWhiteSpace = false)

instance (tag : String) : Decidable (CleanTag tag) := inferInstanceAs (Decidable (_ ∧ _))

structure TagSet (tags : List String) : Prop where
  clean : ∀ tag ∈ tags, CleanTag tag
  nodup : tags.Nodup

theorem tagSet_nil : TagSet [] := ⟨by simp, List.nodup_nil⟩

theorem trim_toList (text : String) :
    (trim text).toList = (text.toList.dropWhile isWhiteSpace).rdropWhile isWhiteSpace := by
  rw [trim, String.toList_ofList, List.rdropWhile]

theorem cleanTag_trim {text : String} (h : trim text ≠ "") : CleanTag (trim text) := by
  have hne : (text.toList.dropWhile isWhiteSpace).rdropWhile isWhiteSpace ≠ [] := by
    rwa [← trim_toList, ne_eq, String.toList_eq_nil_iff]
  refine ⟨h, ?_, ?_⟩
  · -- The first character is the one the leading white space has been dropped up to.
    obtain ⟨first, rest, hcons⟩ := List.exists_cons_of_ne_nil hne
    obtain ⟨dropped, hdropped⟩ := List.rdropWhile_prefix isWhiteSpace (text.toList.dropWhile isWhiteSpace)
    have hfirst := List.head?_dropWhile_not isWhiteSpace text.toList
    rw [← hdropped, hcons] at hfirst
    rw [trim_toList, hcons]
    exact hfirst
  · have hlast := List.rdropWhile_last_not isWhiteSpace (text.toList.dropWhile isWhiteSpace) hne
    rw [trim_toList, List.getLast?_eq_some_getLast hne]
    simpa using hlast

theorem nodup_eraseDups (tags : List String) : tags.eraseDups.Nodup := by
  induction hlength : tags.length using Nat.strong_induction_on generalizing tags with
  | h length ih =>
      cases tags with
      | nil => exact List.nodup_nil
      | cons tag rest =>
          have hshorter : (rest.filter fun other => !other == tag).length < length := by
            have hle := List.length_filter_le (fun other => !other == tag) rest
            simp only [List.length_cons] at hlength
            omega
          rw [List.eraseDups_cons]
          refine List.nodup_cons.mpr ⟨?_, ih _ hshorter _ rfl⟩
          simp [List.mem_eraseDups]

-- What an update makes of the tags it is sent.
theorem tagSet_normalized (tags : List String) :
    TagSet ((tags.map trim).filter fun tag => tag ≠ "").eraseDups where
  clean tag hmem := by
    obtain ⟨hmapped, hne⟩ := List.mem_filter.mp (List.mem_eraseDups.mp hmem)
    obtain ⟨text, -, rfl⟩ := List.mem_map.mp hmapped
    exact cleanTag_trim (by simpa using hne)
  nodup := nodup_eraseDups _

theorem tagSet_append_iff {tags : List String} {tag : String} (hclean : CleanTag tag) (hnew : tag ∉ tags) :
    TagSet (tags ++ [tag]) ↔ TagSet tags := by
  constructor
  · exact fun h => ⟨fun other hmem => h.clean other (List.mem_append_left _ hmem),
      (List.nodup_append.mp h.nodup).1⟩
  · rintro ⟨htags, hnodup⟩
    refine ⟨?_, hnodup.append (List.nodup_singleton tag) (by simpa using hnew)⟩
    simp only [List.mem_append, List.mem_singleton]
    rintro other (hmem | rfl)
    · exact htags other hmem
    · exact hclean

end TagSets

variable {env : Environment} {now : Nat} {store : TicketStore}

-- What actions assign leaves the tags, and add_tag adds one that is not among them.
theorem setter_tags {value : String} {field : ActionField} {set : Ticket → Ticket}
    (h : field.setter env now store value = some set) (ticket : Ticket) : (set ticket).tags = ticket.tags := by
  cases field with
  | status | priority | groupId | agentId | platform =>
      obtain ⟨_, -, rfl⟩ := Option.map_eq_some_iff.mp h
      rfl

theorem tagSet_effect (action : AutomationAction) (ticket : Ticket) :
    TagSet (action.effect env now store ticket).tags ↔ TagSet ticket.tags := by
  unfold AutomationAction.effect
  cases action.type.field with
  | some field =>
      dsimp only
      split
      · exact Iff.rfl
      · cases hset : field.setter env now store action.value with
        | none => exact Iff.rfl
        | some set => rw [Option.elim_some, setter_tags hset]
  | none =>
      dsimp only
      split
      · exact Iff.rfl
      split
      · exact Iff.rfl
      split
      · exact Iff.rfl
      · rename_i hne hnew
        exact tagSet_append_iff (cleanTag_trim hne) (by simpa using hnew)

theorem tagSet_effects (actions : List AutomationAction) (ticket : Ticket) :
    TagSet (effects env now store actions ticket).tags ↔ TagSet ticket.tags := by
  induction actions generalizing ticket with
  | nil => exact Iff.rfl
  | cons action rest ih => exact (ih _).trans (tagSet_effect action ticket)

theorem tagSet_ruleEffects (rules : List AutomationRule) (ticket : Ticket) :
    TagSet (ruleEffects env now store rules ticket).tags ↔ TagSet ticket.tags := by
  induction rules generalizing ticket with
  | nil => exact Iff.rfl
  | cons rule rest ih =>
      rw [ruleEffects, List.foldl_cons, ← ruleEffects]
      split
      · exact (ih _).trans (tagSet_effects rule.actions ticket)
      · exact ih ticket

def TagsAreSets (store : TicketStore) : Prop := AllTickets (fun ticket => TagSet ticket.tags) store

-- Where one ticket is written, it depends on its row.
theorem tagsAreSets_iff {before after : TicketStore} {id : Uuid} {row : Ticket} (h : TagsAreSets before)
    (hran : RanOn id before row after) : TagsAreSets after ↔ TagSet row.tags := by
  constructor
  · exact fun hafter => hafter id row hran.row
  · intro hrow other ticket hl
    by_cases hsame : other = id
    · subst hsame
      rwa [← Option.some.inj (hran.row.symm.trans hl)]
    · rw [hran.others other hsame] at hl
      exact h other ticket hl

theorem newTicket_tags (dto : CreateTicketDto) (newIds : GeneratedIds) (now : Nat) (before : TicketStore) :
    Ensures (newTicket env dto newIds now) before fun ticket _ => ticket.tags = dto.tags.getD [] := by
  unfold newTicket
  have hany : ∀ {α : Type} (tx : TicketM α) (store : TicketStore), Ensures tx store fun _ _ => True :=
    fun _ _ _ _ _ => trivial
  iterate 8 refine (hany _ _).bind fun _ _ _ => ?_
  exact (hany _ _).bind fun _ _ _ => .pure rfl

-- A creation is given a set, or it is not committed.
theorem create_tags_iff (dto : CreateTicketDto) (newIds : GeneratedIds) (h : TagsAreSets store) :
    TagsAreSets (commit (create env dto newIds now) store) ↔
      (Commits (create env dto newIds now) store → TagSet (dto.tags.getD [])) := by
  unfold commit
  cases hrun : (create env dto newIds now).run store with
  | error error =>
      exact iff_of_true h fun hcommits => absurd hcommits (Commits.not_of_error hrun)
  | ok pair =>
      obtain ⟨result, after⟩ := pair
      have hcommits : Commits (create env dto newIds now) store := ⟨result, after, hrun⟩
      obtain ⟨ticket, middle, hticket, -, hrules⟩ := create_writes env dto newIds now store result after hrun
      obtain ⟨hagree, -⟩ := newTicket_ensures env dto newIds now store ticket middle hticket
      have hmiddle : TagsAreSets middle := h.of_tickets (hagree.comp TicketStore.tickets)
      have hinserted : RanOn newIds.ticketId middle ticket
          { middle with tickets := middle.tickets.insert newIds.ticketId ticket } := .insert rfl rfl rfl
      obtain ⟨-, -, hran⟩ := (makes_runRules .ticketCreated hinserted.row).ensures result after hrules
      rw [tagsAreSets_iff hmiddle (hinserted.trans hran), tagSet_ruleEffects,
        newTicket_tags dto newIds now store ticket middle hticket]
      exact ⟨fun htags _ => htags, fun htags => htags hcommits⟩

theorem update_tags (id : String) (dto : UpdateTicketDto) (actorAgentId : Option Uuid) (now : Nat) :
    Keeps (Stays TagsAreSets) (update env id dto actorAgentId now) := by
  apply Keeps.stays
  intro before hbefore
  refine (update_writes env id dto actorAgentId now before).mono ?_
  rintro outcome after ⟨key, existing, edits, hedits, ⟨-, rfl⟩ | ⟨-, hrules⟩⟩
  · exact hbefore
  · have hrequested : RanOn key before (edits.updated now existing)
        (requested key (edits.updated now existing) actorAgentId edits.changes before) := .insert rfl rfl rfl
    obtain ⟨-, -, hran⟩ := (makes_runRules .ticketUpdated hrequested.row).ensures outcome.result after hrules
    rw [tagsAreSets_iff hbefore (hrequested.trans hran), tagSet_ruleEffects]
    obtain ⟨customFields, hrow⟩ := hedits.updated_eq
    obtain ⟨slaPolicyId, firstResponseDueAt, resolutionDueAt, hsla⟩ :=
      withSla_eq (recalculateSla env before existing (dto.ticketTypeId.resolve env)) _
    rw [hrow, hsla]
    cases dto.tags with
    | none => exact hbefore key existing hedits.row
    | some tags => exact tagSet_normalized tags

theorem merge_tags (primaryId : String) (sourceTicketIds : List String) (now : Nat) :
    Keeps (Stays TagsAreSets) (merge env primaryId sourceTicketIds now) := by
  apply Keeps.stays
  intro before hbefore
  suffices hkeep : ∀ primaryKey primary, env.castUuid primaryId = some primaryKey →
      before.tickets.lookup primaryKey = some primary →
      MergeKeeps env primaryId primaryKey primary.ticketNumber now (fun _ => TagsAreSets) ∧ TagsAreSets before from
    merge_ensures primaryId sourceTicketIds now before hkeep (fun _ h => h) fun _ _ _ h => h
  refine fun primaryKey primary _ _ => ⟨⟨fun _ _ h => h, fun _ _ _ _ _ h _ _ _ _ => h, ?_⟩, hbefore⟩
  intro sourceId rest middle key source hmiddle _ _ hsource _
  have hrow : TagSet (mergedRow primaryKey now source).tags := hmiddle key source hsource
  exact hmiddle.insert rfl hrow

theorem applyScenario_tags (scenarioId ticketId : String) (now : Nat) :
    Keeps (Stays (OfDesk TagsAreSets)) (HelpDesk.applyScenario env scenarioId ticketId now) := by
  apply Keeps.stays
  intro desk hdesk
  refine (applyScenario_writes scenarioId ticketId now desk).mono ?_
  rintro result after ⟨_, actions, key, ticket, -, -, -, hticket, hactions⟩
  obtain ⟨-, -, hran⟩ := (makes_applyActions actions hticket).ensures result _ hactions
  rw [OfDesk, tagsAreSets_iff hdesk hran, tagSet_effects]
  exact hdesk key ticket hticket

section Sweeps

-- The candidates to come are as the rule has read them.
def Current (candidates : List (Uuid × Ticket)) (store : TicketStore) : Prop :=
  ∀ candidate ∈ candidates, store.tickets.lookup candidate.1 = some candidate.2

theorem sweepCandidates_tags (rule : TimeAutomation.TimeRule) (candidates : List (Uuid × Ticket))
    (hnodup : (candidates.map Prod.fst).Nodup) (appliedCount : Nat) (desk : HelpDesk)
    (hdesk : OfDesk TagsAreSets desk) (hcurrent : Current candidates desk.toTicketStore) :
    Ensures (HelpDesk.sweepCandidates env now rule candidates appliedCount) desk
      fun _ after => OfDesk TagsAreSets after := by
  induction candidates generalizing appliedCount desk with
  | nil => exact .pure hdesk
  | cons candidate rest ih =>
      obtain ⟨hfirst, hrest⟩ := List.forall_mem_cons.mp hcurrent
      obtain ⟨hnew, hnodup⟩ := List.nodup_cons.mp hnodup
      unfold HelpDesk.sweepCandidates
      split
      · have hactions : Ensures (onTickets (applyActions env now candidate.1 rule.actions candidate.2)) desk
            fun _ after => OfDesk TagsAreSets after ∧ Current rest after.toTicketStore := by
          refine onTickets_ensures ((makes_applyActions rule.actions hfirst).ensures.mono ?_)
          rintro _ after ⟨-, -, hran⟩
          refine ⟨?_, fun other hmem => ?_⟩
          · rw [OfDesk, tagsAreSets_iff hdesk hran, tagSet_effects]
            exact hdesk candidate.1 candidate.2 hfirst
          · have hother : other.1 ≠ candidate.1 := fun hsame => hnew (hsame ▸ List.mem_map_of_mem hmem)
            rw [hran.others other.1 hother]
            exact hrest other hmem
        refine hactions.bind ?_
        rintro _ after ⟨htags, hleft⟩
        refine .modify_bind (ih hnodup _ _ ?_ ?_)
        · split
          · exact htags
          · exact htags
        · split
          · exact hleft
          · exact hleft
      · exact ih hnodup appliedCount desk hdesk hrest

theorem sweepTenant_tags (order : ScanOrder (Uuid × Ticket)) (now : Nat) :
    Keeps (Stays (OfDesk TagsAreSets)) (HelpDesk.sweepTenant env order now) := by
  refine sweepTenant_keeps order now fun rule => .stays fun before hbefore => .get_bind ?_
  have hperm := order.perm (HelpDesk.candidates now rule before)
  refine sweepCandidates_tags rule _ ?_ 0 before hbefore fun candidate hmem => ?_
  · exact Table.nodup_ids_of_perm hperm
  · have hcandidate := hperm.mem_iff.mp hmem
    simp only [HelpDesk.candidates, List.mem_filter] at hcandidate
    exact Table.mem_rows.mp hcandidate.1

end Sweeps

-- A tag triage applies is one that a ticket of the tenant has.
theorem suggestion_tags_clean {runtime : Runtime} {raw : String} {order : ScanOrder String} {desk : HelpDesk}
    (h : OfDesk TagsAreSets desk) :
    ∀ tag ∈ (HelpDesk.parseSuggestion runtime raw
      (HelpDesk.loadAllowlists env order desk)).tags, CleanTag tag := by
  intro tag hmem
  rcases parseSuggestion_cases runtime raw (HelpDesk.loadAllowlists env order desk) with hempty | ⟨parsed, hread⟩
  · rw [hempty] at hmem
    cases hmem
  · have hallowed := of_allowedTags hread.tags tag hmem
    have hdistinct := (order.perm _).mem_iff.mp (List.mem_of_mem_take hallowed)
    obtain ⟨⟨id, ticket⟩, hrow, htag⟩ := List.mem_flatMap.mp (List.mem_eraseDups.mp hdistinct)
    exact (h id ticket (Table.mem_rows.mp hrow)).clean tag htag

variable (env) in
-- Triage that is committed applies no suggestion that names a tag twice.
def TriageKeepsTags (runtime : Runtime) (desk : HelpDesk) (ticketId : Uuid) (reply : AiReply)
    (order : ScanOrder String) : Prop :=
  Commits (HelpDesk.triageTicket env runtime ticketId reply order) desk →
    ∀ row suggestion, Applies env runtime desk ticketId reply order row suggestion → suggestion.tags.Nodup

theorem triage_tags_iff (runtime : Runtime) (ticketId : Uuid) (reply : AiReply) (order : ScanOrder String)
    (desk : HelpDesk) (h : OfDesk TagsAreSets desk) :
    OfDesk TagsAreSets (commit (HelpDesk.triageTicket env runtime ticketId reply order) desk) ↔
      TriageKeepsTags env runtime desk ticketId reply order := by
  unfold TriageKeepsTags commit
  cases hrun : (HelpDesk.triageTicket env runtime ticketId reply order).run desk with
  | error error =>
      exact iff_of_true h fun hcommits => absurd hcommits (Commits.not_of_error hrun)
  | ok pair =>
      obtain ⟨result, after⟩ := pair
      have hcommits : Commits (HelpDesk.triageTicket env runtime ticketId reply order) desk :=
        ⟨result, after, hrun⟩
      have hwrite : TriageWrite env runtime desk ticketId reply order after.toTicketStore :=
        triageTicket_ensures runtime ticketId reply order desk result after hrun
      unfold OfDesk
      dsimp only
      generalize after.toTicketStore = store at hwrite ⊢
      cases hwrite with
      | kept hnot => exact iff_of_true h fun _ row suggestion happlies => absurd happlies (hnot row suggestion)
      | applied row suggestion priority newTypeId _ happlies hsuggested hwritten =>
          have hclean : ∀ tag ∈ suggestion.tags, CleanTag tag := by
            obtain ⟨raw, -, rfl⟩ := happlies.reply
            exact suggestion_tags_clean h
          have htags : TagSet (suggestedRow priority newTypeId suggestion.tags row).tags ↔
              suggestion.tags.Nodup := by
            unfold suggestedRow
            dsimp only
            split
            · exact ⟨TagSet.nodup, fun hnodup => ⟨hclean, hnodup⟩⟩
            · rename_i hnone
              rw [List.length_eq_zero_iff.mp (Nat.eq_zero_of_not_pos hnone)]
              exact iff_of_true (h ticketId row happlies.row) List.nodup_nil
          rw [tagsAreSets_iff h hwritten.ranOn, htags]
          constructor
          · intro hnodup _ otherRow other hother
            obtain ⟨raw, hraw, rfl⟩ := happlies.reply
            obtain ⟨otherRaw, hotherRaw, rfl⟩ := hother.reply
            obtain rfl := AiReply.completed.inj (hraw.symm.trans hotherRaw)
            exact hnodup
          · exact fun hall => hall hcommits row suggestion happlies

variable (env) (runtime : Runtime)

-- What a call must not do, lest a ticket's tags are no set any longer.
def CallKeepsTags (desk : HelpDesk) : HelpDeskCall → Prop
  | .tickets (.create dto newIds now) =>
      Commits (create env dto newIds now) desk.toTicketStore → TagSet (dto.tags.getD [])
  | .triageTicket ticketId reply order => TriageKeepsTags env runtime desk ticketId reply order
  | .tickets (.update _ _ _ _) | .tickets (.merge _ _ _) | .applyScenario _ _ _ | .sweepTenant _ _
  | .importTicket _ _ _ => True

theorem step_tags_iff (desk : HelpDesk) (call : HelpDeskCall) (h : OfDesk TagsAreSets desk) :
    OfDesk TagsAreSets (desk.step env runtime call) ↔ CallKeepsTags env runtime desk call := by
  cases call with
  | tickets call =>
      cases call with
      | create dto newIds now => exact create_tags_iff dto newIds h
      | update id dto actorAgentId now => exact iff_of_true ((update_tags id dto actorAgentId now).commit _ h) trivial
      | merge primaryId sourceTicketIds now =>
          exact iff_of_true ((merge_tags primaryId sourceTicketIds now).commit _ h) trivial
  | applyScenario scenarioId ticketId now =>
      exact iff_of_true ((applyScenario_tags scenarioId ticketId now).commit _ h) trivial
  | sweepTenant order now => exact iff_of_true ((sweepTenant_tags order now).commit _ h) trivial
  | importTicket ticket context newIds =>
      have habout : AboutTickets TagsAreSets := fun hbefore htickets _ => hbefore.of_tickets htickets
      refine iff_of_true ((importTicket_stays runtime habout ticket context newIds ?_).commit _ h) trivial
      intro store row hstore _ himported
      have hrow : TagSet row.tags := himported.tags ▸ tagSet_nil
      exact hstore.insert rfl hrow
  | triageTicket ticketId reply order => exact triage_tags_iff runtime ticketId reply order desk h

-- From a tenant without tickets on, whatever is called and in whatever order.
theorem tags_are_sets_iff (desk : HelpDesk) (hempty : desk.tickets = ∅) (calls : List HelpDeskCall) :
    Runs.Always (HelpDesk.step env runtime) (OfDesk TagsAreSets) desk calls ↔
      Runs.AllSteps (HelpDesk.step env runtime) (CallKeepsTags env runtime) desk calls := by
  have hstart : OfDesk TagsAreSets desk := by
    intro id ticket hl
    rw [hempty, AList.lookup_empty] at hl
    cases hl
  refine Runs.always_iff_allSteps calls hstart (fun _ h => h) ?_ ?_
  · exact fun desk call h => (step_tags_iff env runtime desk call h).mpr
  · exact fun desk call h => (step_tags_iff env runtime desk call h).mp

def tagged (tags : List String) : CreateTicketDto := { requestOf "Printer on fire" with tags := some tags }

theorem untrimmedThenUpdated_tags_iff :
    Runs.Always (HelpDesk.step twoIds plainRuntime) (OfDesk TagsAreSets) newTenant
        [.tickets (.create (tagged ["vip ", "vip ", ""]) ⟨2, 1⟩ 10),
          .tickets (.update firstId { noChange with tags := some ["vip ", "vip", ""] } none 20)] ↔
      Runs.AllSteps (HelpDesk.step twoIds plainRuntime) (CallKeepsTags twoIds plainRuntime) newTenant
        [.tickets (.create (tagged ["vip ", "vip ", ""]) ⟨2, 1⟩ 10),
          .tickets (.update firstId { noChange with tags := some ["vip ", "vip", ""] } none 20)] :=
  tags_are_sets_iff twoIds plainRuntime newTenant rfl _

theorem untrimmed_not_set :
    ¬ Runs.Always (HelpDesk.step twoIds plainRuntime) (OfDesk TagsAreSets) newTenant
      [.tickets (.create (tagged ["vip ", "vip ", ""]) ⟨2, 1⟩ 10)] := by
  intro h
  let after := HelpDesk.step twoIds plainRuntime newTenant (.tickets (.create (tagged ["vip ", "vip ", ""]) ⟨2, 1⟩ 10))
  have htags : (after.tickets.lookup 1).map Ticket.tags = some ["vip ", "vip ", ""] := by decide +kernel
  obtain ⟨row, hrow, hrowTags⟩ := Option.map_eq_some_iff.mp htags
  have hset : TagSet row.tags := h.2 1 row hrow
  rw [hrowTags] at hset
  exact absurd hset.nodup (by decide)

end CloudOps.Ticketing
