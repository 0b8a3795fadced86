import CloudOps.Pointers
import CloudOps.Ticketing.Writes

namespace CloudOps.Ticketing

open CloudOps.ReadCommitted CloudOps.Transaction CloudOps.Pointers

variable (env : Environment)

def mergedInto (store : TicketStore) (id : Uuid) : Option Uuid :=
  (store.tickets.lookup id).bind Ticket.mergedIntoId

-- From every ticket merged_into_id leads, after finitely many hops, to a ticket that
-- is merged into no other.
def ChainsEnd (store : TicketStore) : Prop :=
  ∀ id ∈ store.tickets, ∃ hops survivor ticket, follow (mergedInto store) hops id = some survivor ∧
    store.tickets.lookup survivor = some ticket ∧ ticket.mergedIntoId = none

def Known (store : TicketStore) (id : String) : Prop :=
  ∃ key, env.castUuid id = some key ∧ key ∈ store.tickets

-- The sources a merge does not skip at sight are known.
def SourcesKnown (store : TicketStore) (primaryId : String) (sourceTicketIds : List String) : Prop :=
  ∀ sourceId ∈ sourceTicketIds, sourceId ≠ primaryId → Known env store sourceId

-- The call is no merge of known tickets that takes the ticket where the primary's own
-- chain ends for one of the sources.
def SparesSurvivor (store : TicketStore) : TicketCall → Prop
  | .merge primaryId sourceTicketIds _ =>
      SourcesKnown env store primaryId sourceTicketIds →
      ∀ primaryKey survivor, env.castUuid primaryId = some primaryKey → primaryKey ∈ store.tickets →
        EndsAt (mergedInto store) primaryKey survivor →
        ∀ sourceId ∈ sourceTicketIds, sourceId ≠ primaryId → env.castUuid sourceId ≠ some survivor
  | .create .. | .update .. => True

-- The ids of the sources that are not skipped at sight.
def sourceKeys (primaryId : String) (sourceTicketIds : List String) : List Uuid :=
  (sourceTicketIds.filter fun sourceId => sourceId ≠ primaryId).filterMap env.castUuid

-- What a merge does to the pointers, and that it takes away and adds no ticket.
structure Merged (primaryKey : Uuid) (keys : List Uuid) (before after : TicketStore) : Prop where
  pointers : mergedInto after = pointAll primaryKey keys (mergedInto before)
  tickets : ∀ id, id ∈ after.tickets ↔ id ∈ before.tickets

theorem mem_iff_of_same {α : Type} {columns : Ticket → α} {before after : TicketStore}
    (h : Same columns before after) (id : Uuid) : id ∈ after.tickets ↔ id ∈ before.tickets := by
  have hid := congrArg Option.isSome (h id)
  rw [Option.isSome_map, Option.isSome_map] at hid
  rw [← AList.lookup_isSome, ← AList.lookup_isSome, hid]

theorem mergedInto_eq_of_same {before after : TicketStore}
    (h : Same Ticket.mergedIntoId before after) : mergedInto after = mergedInto before := by
  funext id
  have hid := congrArg (fun pointer => pointer.bind fun into => into) (h id)
  simp only [Option.bind_map] at hid
  exact hid

section Merge

theorem mergeSource_run (primaryKey : Uuid) (primaryNumber now : Nat) {sourceKey : Uuid}
    {store : TicketStore} (hmem : sourceKey ∈ store.tickets) :
    ∃ after, (mergeSource primaryKey primaryNumber now sourceKey).run store = .ok ((), after) ∧
      mergedInto after = point (mergedInto store) sourceKey primaryKey ∧
      ∀ id, id ∈ after.tickets ↔ id ∈ store.tickets := by
  obtain ⟨source, hl⟩ := Option.isSome_iff_exists.mp (AList.lookup_isSome.mpr hmem)
  let closed : Ticket :=
    { source with
      status := .closed
      resolvedAt := source.resolvedAt.or (some now)
      mergedIntoId := some primaryKey
      updatedAt := now }
  have hrun : ∃ after, (mergeSource primaryKey primaryNumber now sourceKey).run store =
      .ok ((), after) ∧ after.tickets = store.tickets.insert sourceKey closed := by
    refine ⟨_, (run_bind_ok rfl).trans ((run_bind_ok (updateTicket_run source ?_ _)).trans rfl), ?_⟩
    · exact hl
    · rfl
  obtain ⟨after, hrun, htickets⟩ := hrun
  refine ⟨after, hrun, ?_, ?_⟩
  · funext id
    rw [mergedInto, htickets, Table.lookup_insert_eq]
    by_cases hsame : id = sourceKey
    · subst hsame
      rw [if_pos rfl, point_self]
      rfl
    · rw [if_neg hsame, point_of_ne hsame]
      rfl
  · intro id
    rw [htickets, AList.mem_insert]
    constructor
    · rintro (rfl | h)
      · exact hmem
      · exact h
    · exact Or.inr

theorem Known.congr {before after : TicketStore} (h : ∀ id, id ∈ after.tickets ↔ id ∈ before.tickets)
    {id : String} : Known env after id ↔ Known env before id := by
  simp only [Known, h]

theorem sourceKeys_cons_self (primaryId : String) (rest : List String) :
    sourceKeys env primaryId (primaryId :: rest) = sourceKeys env primaryId rest := by
  simp [sourceKeys]

theorem sourceKeys_cons {primaryId sourceId : String} {key : Uuid} (hne : sourceId ≠ primaryId)
    (hkey : env.castUuid sourceId = some key) (rest : List String) :
    sourceKeys env primaryId (sourceId :: rest) = key :: sourceKeys env primaryId rest := by
  simp [sourceKeys, hne, hkey]

section Loop

-- One round of the loop: it goes past the primary and past what is merged already, and
-- merges any other source.
variable {primaryId sourceId : String} {primaryKey key : Uuid} {primaryNumber now : Nat} {source : Ticket}
  {store : TicketStore}

theorem mergeSources_self (rest : List String) (mergedNumbers : List Nat) :
    mergeSources env primaryId primaryKey primaryNumber now (primaryId :: rest) mergedNumbers =
      mergeSources env primaryId primaryKey primaryNumber now rest mergedNumbers := by
  rw [mergeSources, if_pos rfl]

theorem mergeSources_past (hne : sourceId ≠ primaryId) (hkey : env.castUuid sourceId = some key)
    (hl : store.tickets.lookup key = some source) (hmerged : source.mergedIntoId.isSome)
    (rest : List String) (mergedNumbers : List Nat) :
    (mergeSources env primaryId primaryKey primaryNumber now (sourceId :: rest) mergedNumbers).run store =
      (mergeSources env primaryId primaryKey primaryNumber now rest mergedNumbers).run store := by
  rw [mergeSources, if_neg hne, run_bind_ok (selectTicket_run env hkey store), hl]
  simp only [Option.map_some]
  rw [if_pos hmerged]

theorem mergeSources_merging (hne : sourceId ≠ primaryId) (hkey : env.castUuid sourceId = some key)
    (hl : store.tickets.lookup key = some source) (hnone : source.mergedIntoId = none) :
    ∃ middle, (mergeSource primaryKey primaryNumber now key).run store = .ok ((), middle) ∧
      mergedInto middle = point (mergedInto store) key primaryKey ∧
      (∀ id, id ∈ middle.tickets ↔ id ∈ store.tickets) ∧
      ∀ rest mergedNumbers,
        (mergeSources env primaryId primaryKey primaryNumber now (sourceId :: rest) mergedNumbers).run store =
          (mergeSources env primaryId primaryKey primaryNumber now rest
            (mergedNumbers ++ [source.ticketNumber])).run middle := by
  obtain ⟨middle, hmiddle, hpoint, htickets⟩ :=
    mergeSource_run primaryKey primaryNumber now (Table.mem_of_lookup hl)
  refine ⟨middle, hmiddle, hpoint, htickets, fun rest mergedNumbers => ?_⟩
  rw [mergeSources, if_neg hne, run_bind_ok (selectTicket_run env hkey store), hl]
  simp only [Option.map_some]
  rw [if_neg (by simp [hnone]), run_bind_ok hmiddle]

end Loop

-- With every source known, the loop runs to its end, and each source that is merged
-- into no ticket is pointed at the primary.
theorem mergeSources_run (primaryId : String) (primaryKey : Uuid) (primaryNumber now : Nat)
    (sourceTicketIds : List String) (mergedNumbers : List Nat) (store : TicketStore)
    (hknown : SourcesKnown env store primaryId sourceTicketIds) :
    ∃ numbers after, (mergeSources env primaryId primaryKey primaryNumber now sourceTicketIds
      mergedNumbers).run store = .ok (numbers, after) ∧
      Merged primaryKey (sourceKeys env primaryId sourceTicketIds) store after := by
  induction sourceTicketIds generalizing mergedNumbers store with
  | nil => exact ⟨mergedNumbers, store, rfl, rfl, fun _ => Iff.rfl⟩
  | cons sourceId rest ih =>
      have hrest : SourcesKnown env store primaryId rest :=
        fun other hother => hknown other (List.mem_cons_of_mem _ hother)
      by_cases hskip : sourceId = primaryId
      · subst hskip
        rw [mergeSources_self, sourceKeys_cons_self]
        exact ih mergedNumbers store hrest
      · obtain ⟨key, hkey, hmem⟩ := hknown sourceId List.mem_cons_self hskip
        obtain ⟨source, hl⟩ := Option.isSome_iff_exists.mp (AList.lookup_isSome.mpr hmem)
        have hpointer : mergedInto store key = source.mergedIntoId := by
          rw [mergedInto, hl, Option.bind_some]
        rw [sourceKeys_cons env hskip hkey]
        cases hmerged : source.mergedIntoId with
        | some target =>
            rw [mergeSources_past env hskip hkey hl (by simp [hmerged])]
            obtain ⟨numbers, after, hrun, hafter⟩ := ih mergedNumbers store hrest
            refine ⟨numbers, after, hrun, ?_, hafter.tickets⟩
            rw [hafter.pointers, pointAll, if_neg]
            simp [hpointer, hmerged]
        | none =>
            obtain ⟨middle, -, hpoint, htickets, hloop⟩ := mergeSources_merging env hskip hkey hl hmerged
            obtain ⟨numbers, after, hrun, hafter⟩ := ih (mergedNumbers ++ [source.ticketNumber]) middle
              fun other hother hne => (Known.congr env htickets).mpr (hrest other hother hne)
            refine ⟨numbers, after, (hloop rest mergedNumbers).trans hrun, ?_, fun id => ?_⟩
            · rw [hafter.pointers, hpoint, pointAll, if_pos (hpointer.trans hmerged)]
            · exact (hafter.tickets id).trans (htickets id)

theorem mergeSources_run_error (primaryId : String) (primaryKey : Uuid) (primaryNumber now : Nat)
    (sourceTicketIds : List String) (mergedNumbers : List Nat) (store : TicketStore)
    (hunknown : ¬ SourcesKnown env store primaryId sourceTicketIds) :
    ∃ error, (mergeSources env primaryId primaryKey primaryNumber now sourceTicketIds
      mergedNumbers).run store = .error error := by
  induction sourceTicketIds generalizing mergedNumbers store with
  | nil => exact absurd (fun sourceId hsource => by simp at hsource) hunknown
  | cons sourceId rest ih =>
      have hrest (h : sourceId = primaryId ∨ Known env store sourceId) :
          ¬ SourcesKnown env store primaryId rest := by
        intro hknown
        apply hunknown
        intro other hother hne
        rcases List.mem_cons.mp hother with rfl | hother
        · exact h.resolve_left hne
        · exact hknown other hother hne
      by_cases hskip : sourceId = primaryId
      · subst hskip
        rw [mergeSources_self]
        exact ih mergedNumbers store (hrest (.inl rfl))
      · cases hkey : env.castUuid sourceId with
        | none =>
            obtain ⟨error, herror⟩ := selectTicket_run_none env hkey store
            rw [mergeSources, if_neg hskip]
            exact ⟨error, run_bind_error herror⟩
        | some key =>
            cases hl : store.tickets.lookup key with
            | none =>
                rw [mergeSources, if_neg hskip, run_bind_ok (selectTicket_run env hkey store), hl]
                exact ⟨_, rfl⟩
            | some source =>
                have hrest := hrest (.inr ⟨key, hkey, Table.mem_of_lookup hl⟩)
                cases hmerged : source.mergedIntoId with
                | some target =>
                    rw [mergeSources_past env hskip hkey hl (by simp [hmerged])]
                    exact ih mergedNumbers store hrest
                | none =>
                    obtain ⟨middle, -, -, htickets, hloop⟩ := mergeSources_merging env hskip hkey hl hmerged
                    rw [hloop]
                    apply ih
                    intro hknown
                    exact hrest fun other hother hne =>
                      (Known.congr env htickets).mp (hknown other hother hne)

-- A merge of known tickets is committed.
theorem step_merge_known {store : TicketStore} {primaryId : String} {primaryKey : Uuid}
    {sourceTicketIds : List String} (hkey : env.castUuid primaryId = some primaryKey)
    (hmem : primaryKey ∈ store.tickets) (hknown : SourcesKnown env store primaryId sourceTicketIds)
    (now : Nat) : Merged primaryKey (sourceKeys env primaryId sourceTicketIds) store
      (step env store (.merge primaryId sourceTicketIds now)) := by
  obtain ⟨primary, hl⟩ := Option.isSome_iff_exists.mp (AList.lookup_isSome.mpr hmem)
  obtain ⟨numbers, after, hrun, hafter⟩ := mergeSources_run env primaryId primaryKey
    primary.ticketNumber now sourceTicketIds [] store hknown
  have hcommit : ∃ final, step env store (.merge primaryId sourceTicketIds now) = final ∧
      final.tickets = after.tickets := by
    refine ⟨_, rfl, ?_⟩
    simp only [step, commit, merge]
    rw [run_bind_ok (selectTicket_run env hkey store), hl]
    simp only [Option.map_some]
    rw [run_bind_ok hrun]
    split
    · rename_i heq
      split at heq
      · obtain ⟨-, rfl⟩ := Prod.mk.inj (Except.ok.inj heq)
        rfl
      · obtain ⟨-, rfl⟩ := Prod.mk.inj (Except.ok.inj heq)
        rfl
    · rename_i heq
      split at heq <;> cases heq
  obtain ⟨final, rfl, htickets⟩ := hcommit
  refine ⟨?_, fun id => ?_⟩
  · rw [← hafter.pointers]
    funext id
    rw [mergedInto, htickets]
    rfl
  · rw [htickets]
    exact hafter.tickets id

-- Any other merge raises, and is rolled back.
theorem merge_run_error {store : TicketStore} {primaryId : String} {sourceTicketIds : List String}
    (h : ¬ (Known env store primaryId ∧ SourcesKnown env store primaryId sourceTicketIds)) (now : Nat) :
    ∃ error, (merge env primaryId sourceTicketIds now).run store = .error error := by
  unfold merge
  cases hkey : env.castUuid primaryId with
  | none =>
      obtain ⟨error, herror⟩ := selectTicket_run_none env hkey store
      exact ⟨error, run_bind_error herror⟩
  | some primaryKey =>
      rw [run_bind_ok (selectTicket_run env hkey store)]
      cases hl : store.tickets.lookup primaryKey with
      | none => exact ⟨_, rfl⟩
      | some primary =>
          have hprimary : Known env store primaryId := ⟨primaryKey, hkey, Table.mem_of_lookup hl⟩
          obtain ⟨error, herror⟩ := mergeSources_run_error env primaryId primaryKey
            primary.ticketNumber now sourceTicketIds [] store fun hknown => h ⟨hprimary, hknown⟩
          exact ⟨error, run_bind_error herror⟩

theorem step_merge_unknown {store : TicketStore} {primaryId : String} {sourceTicketIds : List String}
    {now : Nat} (h : ¬ (Known env store primaryId ∧ SourcesKnown env store primaryId sourceTicketIds)) :
    step env store (.merge primaryId sourceTicketIds now) = store := by
  obtain ⟨error, herror⟩ := merge_run_error env h now
  simp only [step, commit, herror]

end Merge

-- What every reached store has: each chain ends, and none leads out of the table.
structure Forest (store : TicketStore) : Prop where
  terminates : ∀ id, Terminates (mergedInto store) id
  present : ∀ id target, mergedInto store id = some target → target ∈ store.tickets

theorem Forest.chainsEnd {store : TicketStore} (h : Forest store) : ChainsEnd store := by
  intro id hid
  obtain ⟨survivor, hend⟩ := h.terminates id
  have hmem : survivor ∈ store.tickets := by
    apply hend.induct (motive := fun element => element ∈ store.tickets → survivor ∈ store.tickets)
      _ _ hid
    · exact fun _ hmem => hmem
    · intro first second hnext _ ih _
      exact ih (h.present first second hnext)
  obtain ⟨ticket, hl⟩ := Option.isSome_iff_exists.mp (AList.lookup_isSome.mpr hmem)
  obtain ⟨hops, hfollow, hnull⟩ := hend
  refine ⟨hops, survivor, ticket, hfollow, hl, ?_⟩
  rwa [mergedInto, hl, Option.bind_some] at hnull

theorem ChainsEnd.terminates {store : TicketStore} (h : ChainsEnd store) {id : Uuid}
    (hid : id ∈ store.tickets) : Terminates (mergedInto store) id := by
  obtain ⟨hops, survivor, ticket, hfollow, hl, hnull⟩ := h id hid
  exact ⟨survivor, hops, hfollow, by rw [mergedInto, hl, Option.bind_some, hnull]⟩

theorem Forest.of_same {before after : TicketStore} (h : Same Ticket.mergedIntoId before after)
    (hforest : Forest before) : Forest after := by
  have hpointers := mergedInto_eq_of_same h
  constructor
  · rw [hpointers]
    exact hforest.terminates
  · intro id target ht
    rw [hpointers] at ht
    exact (mem_iff_of_same h target).mpr (hforest.present id target ht)

theorem update_same (id : String) (dto : UpdateTicketDto) (actorAgentId : Option Uuid) (now : Nat)
    (before : TicketStore) :
    Ensures (update env id dto actorAgentId now) before fun _ after =>
      Same Ticket.mergedIntoId before after := by
  refine (update_ensures env id dto actorAgentId now before).mono ?_
  rintro _ after ⟨key, existing, -, hl, hafter⟩ other
  have hother := congrArg (Option.map Ticket.mergedIntoId) (hafter other)
  rw [Option.map_map] at hother
  refine hother.trans ?_
  split
  · rename_i hsame
    rw [hsame, hl, Option.map_some, Option.map_some]
    cases recalculateSla env before existing (dto.ticketTypeId.resolve env) <;> rfl
  · rw [Option.map_map]
    rfl

-- A committed creation adds a ticket merged into none.
theorem Forest.create {store : TicketStore} (h : Forest store) (dto : CreateTicketDto)
    (newIds : GeneratedIds) (now : Nat) : Forest (step env store (.create dto newIds now)) := by
  simp only [step, commit]
  split
  · rename_i value after hrun
    obtain ⟨ticket, hfresh, hnew, hafter⟩ := create_ensures env dto newIds now store value after hrun
    have hpointers : mergedInto after = mergedInto store := by
      funext id
      have hid := congrArg (fun row => row.bind Ticket.mergedIntoId) (hafter id)
      simp only [Option.bind_map] at hid
      refine Eq.trans (b := (after.tickets.lookup id).bind (Ticket.mergedIntoId ∘ Ticket.beyondRules))
        rfl (hid.trans ?_)
      split
      · rename_i hsame
        rw [mergedInto, hsame, hnew]
        exact hfresh.unmerged
      · rw [Option.bind_map]
        rfl
    constructor
    · rw [hpointers]
      exact h.terminates
    · intro id target ht
      rw [hpointers] at ht
      exact mem_of_changed hafter (h.present id target ht)
  · exact h

theorem mem_sourceKeys {primaryId : String} {sourceTicketIds : List String} {key : Uuid} :
    key ∈ sourceKeys env primaryId sourceTicketIds ↔
      ∃ sourceId ∈ sourceTicketIds, sourceId ≠ primaryId ∧ env.castUuid sourceId = some key := by
  simp [sourceKeys, and_assoc]

theorem Forest.step {store : TicketStore} (h : Forest store) (call : TicketCall)
    (hspares : SparesSurvivor env store call) : Forest (step env store call) := by
  cases call with
  | create dto newIds now => exact h.create env dto newIds now
  | update id dto actorAgentId now =>
      simp only [Ticketing.step, commit]
      split
      · rename_i value after hrun
        exact h.of_same (update_same env id dto actorAgentId now store value after hrun)
      · exact h
  | merge primaryId sourceTicketIds now =>
      by_cases hknown : Known env store primaryId ∧ SourcesKnown env store primaryId sourceTicketIds
      · obtain ⟨⟨primaryKey, hkey, hmem⟩, hsources⟩ := hknown
        have hmerged := step_merge_known env hkey hmem hsources now
        obtain ⟨survivor, hend⟩ := h.terminates primaryKey
        have hfree : survivor ∉ sourceKeys env primaryId sourceTicketIds := by
          intro hs
          obtain ⟨sourceId, hsource, hne, hcast⟩ := (mem_sourceKeys env).mp hs
          exact hspares hsources primaryKey survivor hkey hmem hend sourceId hsource hne hcast
        constructor
        · rw [hmerged.pointers]
          exact terminates_pointAll _ hend hfree h.terminates
        · intro id target ht
          rw [hmerged.pointers] at ht
          rw [hmerged.tickets]
          rcases pointAll_eq_some _ ht with hold | htarget
          · exact h.present id target hold
          · exact htarget ▸ hmem
      · rw [step_merge_unknown env hknown]
        exact h

-- A merge that takes the survivor of the primary's chain for a source leaves a ticket
-- from which no chain ends.
theorem sparesSurvivor_of_chainsEnd {store : TicketStore} (call : TicketCall)
    (hends : ChainsEnd (step env store call)) : SparesSurvivor env store call := by
  cases call with
  | create _ _ _ => trivial
  | update _ _ _ _ => trivial
  | merge primaryId sourceTicketIds now =>
      intro hsources primaryKey survivor hkey hmem hend sourceId hsource hne hcast
      have hmerged := step_merge_known env hkey hmem hsources now
      have hlost := exists_not_terminates_pointAll (sourceKeys env primaryId sourceTicketIds) hend
        ((mem_sourceKeys env).mpr ⟨sourceId, hsource, hne, hcast⟩)
      rw [← hmerged.pointers] at hlost
      apply hlost
      apply hends.terminates
      rw [hmerged.tickets]
      obtain ⟨key, hcast', hk⟩ := hsources sourceId hsource hne
      obtain rfl := Option.some.inj (hcast.symm.trans hcast')
      exact hk

-- From tickets none of which is merged, the pointers stay free of cycles in exactly
-- the runs in which no merge takes the survivor of its primary for a source.
theorem chains_end_iff (store : TicketStore) (hunmerged : ∀ id, mergedInto store id = none)
    (calls : List TicketCall) :
    Runs.Always (step env) ChainsEnd store calls ↔
      Runs.AllSteps (step env) (SparesSurvivor env) store calls := by
  have hforest : Forest store := by
    constructor
    · exact fun id => ⟨id, .null (hunmerged id)⟩
    · intro id target ht
      simp [hunmerged id] at ht
  apply Runs.always_iff_allSteps calls hforest
  · exact fun _ h => h.chainsEnd
  · exact fun _ call h hspares => h.step env call hspares
  · exact fun _ call _ hends => sparesSurvivor_of_chainsEnd env call hends

def firstId : String := "7c9e6679-7425-40de-944b-e07fc1f90ae7"

def secondId : String := "9b1deb4d-3b7d-4bad-9bdd-2b0d7b3dcb6d"

-- Two uuids, and targets counted around the clock.
def twoIds : Environment where
  castUuid text := if text = firstId then some 1 else if text = secondId then some 2 else none
  uuidText id := if id = 1 then firstId else secondId
  toLowerCase text := text.toLower
  validateCustomFields submitted := .ok submitted
  addBusinessMinutes createdAt minutes _ := createdAt + minutes * 60000

def unmergedTicket (ticketNumber : Nat) : Ticket where
  ticketNumber := ticketNumber
  subject := "Printer on fire"
  contactId := 1
  ticketTypeId := none
  status := .new
  priority := .medium
  groupId := none
  agentId := none
  resourceId := none
  source := .email
  sourceDetail := none
  platform := none
  tags := []
  customFields := []
  requiredSkill := none
  slaPolicyId := none
  firstResponseDueAt := none
  firstResponseAt := none
  firstResponseOverdueNotifiedAt := none
  resolutionDueAt := none
  resolvedAt := none
  resolutionOverdueNotifiedAt := none
  mergedIntoId := none
  createdAt := 0
  updatedAt := 0

def twoTickets : TicketStore where
  tickets := ((∅ : Table Uuid Ticket).insert 1 (unmergedTicket 1)).insert 2 (unmergedTicket 2)
  messages := []
  attachments := []
  activities := []
  nextTicketNumber := some 3
  contacts := (∅ : Table Uuid Contact).insert 1 ⟨"Ann", "ann@example.com"⟩
  ticketTypes := ∅
  groups := ∅
  agents := ∅
  agentSkills := []
  groupAssignmentCursor := ∅
  resources := []
  slaPolicies := ∅
  businessHours := none
  automationRules := []

theorem twoTickets_unmerged (id : Uuid) : mergedInto twoTickets id = none := by
  simp only [mergedInto, twoTickets, Table.lookup_insert_eq]
  split
  · rfl
  · split
    · rfl
    · rfl

theorem one_merge_ends :
    Runs.Always (step twoIds) ChainsEnd twoTickets [.merge firstId [secondId] 10] := by
  apply (chains_end_iff twoIds twoTickets twoTickets_unmerged _).mpr
  refine ⟨?_, trivial⟩
  intro _ primaryKey survivor hkey _ hend sourceId hsource _ hcast
  obtain rfl := hend.unique (.null (twoTickets_unmerged primaryKey))
  rw [List.mem_singleton.mp hsource] at hcast
  have hsame : twoIds.castUuid firstId = twoIds.castUuid secondId := hkey.trans hcast.symm
  exact absurd hsame (by decide)

-- The second ticket goes into the first, and then the first into the second.
theorem merging_back_closes_cycle :
    ¬ Runs.Always (step twoIds) ChainsEnd twoTickets
      [.merge firstId [secondId] 10, .merge secondId [firstId] 20] := by
  intro h
  have hspares := sparesSurvivor_of_chainsEnd twoIds (.merge secondId [firstId] 20) h.2.2
  refine hspares ?_ 2 1 (by decide) (by decide) ⟨1, by decide, by decide⟩ firstId
    List.mem_cons_self (by decide) (by decide)
  intro sourceId hsource _
  rw [List.mem_singleton.mp hsource]
  exact ⟨1, by decide, by decide⟩

end CloudOps.Ticketing
