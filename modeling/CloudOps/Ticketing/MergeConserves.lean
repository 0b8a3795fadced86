import CloudOps.Ticketing.MergePointers
import CloudOps.Ticketing.Writes
import Mathlib.Data.Finset.Card
import Mathlib.Data.Multiset.MapFold

namespace CloudOps.Ticketing

open CloudOps.ReadCommitted CloudOps.Transaction CloudOps.Pointers

variable (env : Environment)

-- The ticket that a message or an attachment belongs to once these have gone into the primary.
def carried (primaryKey : Uuid) (merged : Finset Uuid) (ticketId : Uuid) : Uuid :=
  if ticketId ∈ merged then primaryKey else ticketId

def carriedMessage (primaryKey : Uuid) (merged : Finset Uuid) (message : TicketMessage) : TicketMessage :=
  { message with ticketId := carried primaryKey merged message.ticketId }

def carriedAttachment (primaryKey : Uuid) (merged : Finset Uuid) (attachment : TicketAttachment) :
    TicketAttachment :=
  { attachment with ticketId := carried primaryKey merged attachment.ticketId }

def sourceNote (primaryNumber now : Nat) (sourceKey : Uuid) : TicketMessage :=
  actionNote sourceKey s!"This ticket was merged into #{primaryNumber}." now

-- What merging these tickets comes to: their rows, their conversation and a note on each.
structure Carried (primaryKey : Uuid) (primaryNumber now : Nat) (merged : Finset Uuid)
    (before after : TicketStore) : Prop where
  unmerged : ∀ id ∈ merged, ∃ source, before.tickets.lookup id = some source ∧ source.mergedIntoId = none
  tickets : ∀ id, after.tickets.lookup id =
    if id ∈ merged then (before.tickets.lookup id).map (mergedRow primaryKey now) else before.tickets.lookup id
  messages : (after.messages : Multiset TicketMessage) =
    (before.messages : Multiset TicketMessage).map (carriedMessage primaryKey merged)
      + merged.val.map (sourceNote primaryNumber now)
  attachments : after.attachments = before.attachments.map (carriedAttachment primaryKey merged)
  elsewhere : after = { before with
    tickets := after.tickets, messages := after.messages, attachments := after.attachments }

variable {primaryKey : Uuid} {primaryNumber now : Nat} {before middle after : TicketStore}

theorem carriedMessage_empty : carriedMessage primaryKey ∅ = id := by
  funext message
  simp [carriedMessage, carried]

theorem carriedAttachment_empty : carriedAttachment primaryKey ∅ = id := by
  funext attachment
  simp [carriedAttachment, carried]

theorem Carried.refl (primaryKey : Uuid) (primaryNumber now : Nat) (store : TicketStore) :
    Carried primaryKey primaryNumber now ∅ store store where
  unmerged := by simp
  tickets := by simp
  messages := by simp [carriedMessage_empty]
  attachments := by simp [carriedAttachment_empty]
  elsewhere := rfl

theorem Carried.single {key : Uuid} {source : Ticket} (hl : before.tickets.lookup key = some source)
    (hnull : source.mergedIntoId = none) :
    Carried primaryKey primaryNumber now {key} before
      (afterMerge primaryKey primaryNumber now key source before) where
  unmerged := by
    intro id hid
    obtain rfl := Finset.mem_singleton.mp hid
    exact ⟨source, hl, hnull⟩
  tickets := by
    intro id
    rw [afterMerge, Table.lookup_insert_eq]
    by_cases hid : id = key
    · subst hid
      rw [if_pos rfl, if_pos (Finset.mem_singleton_self id), hl]
      rfl
    · rw [if_neg hid, if_neg (by simpa using hid)]
  messages := by
    have hmoved : TicketMessage.moved key primaryKey = carriedMessage primaryKey {key} := by
      funext message
      by_cases hid : message.ticketId = key <;> simp [TicketMessage.moved, carriedMessage, carried, hid]
    simp [afterMerge, hmoved, sourceNote, ← Multiset.coe_add]
  attachments := by
    have hmoved : TicketAttachment.moved key primaryKey = carriedAttachment primaryKey {key} := by
      funext attachment
      by_cases hid : attachment.ticketId = key <;> simp [TicketAttachment.moved, carriedAttachment, carried, hid]
    rw [← hmoved]
    rfl
  elsewhere := rfl

theorem carried_carried (first second : Finset Uuid) (ticketId : Uuid) :
    carried primaryKey second (carried primaryKey first ticketId) = carried primaryKey (first ∪ second) ticketId := by
  by_cases hfirst : ticketId ∈ first
  · by_cases hprimary : primaryKey ∈ second <;> simp [carried, hfirst, hprimary]
  · by_cases hsecond : ticketId ∈ second <;> simp [carried, hfirst, hsecond]

-- A ticket that has been merged is not among those merged after it.
theorem Carried.disjoint {first second : Finset Uuid}
    (hfirst : Carried primaryKey primaryNumber now first before middle)
    (hsecond : Carried primaryKey primaryNumber now second middle after) : Disjoint first second := by
  rw [Finset.disjoint_left]
  intro id hid hagain
  obtain ⟨source, hl, hnull⟩ := hsecond.unmerged id hagain
  rw [hfirst.tickets, if_pos hid] at hl
  obtain ⟨row, -, rfl⟩ := Option.map_eq_some_iff.mp hl
  simp [mergedRow] at hnull

theorem carriedMessage_sourceNote {second : Finset Uuid} {id : Uuid} (h : id ∉ second) :
    carriedMessage primaryKey second (sourceNote primaryNumber now id) = sourceNote primaryNumber now id := by
  simp [carriedMessage, carried, sourceNote, actionNote, h]

theorem Carried.trans {first second : Finset Uuid}
    (hfirst : Carried primaryKey primaryNumber now first before middle)
    (hsecond : Carried primaryKey primaryNumber now second middle after) :
    Carried primaryKey primaryNumber now (first ∪ second) before after := by
  have hdisjoint := hfirst.disjoint hsecond
  have hapart : ∀ id ∈ second, id ∉ first := fun id hid hin => Finset.disjoint_left.mp hdisjoint hin hid
  refine ⟨?_, ?_, ?_, ?_, ?_⟩
  · intro id hid
    rcases Finset.mem_union.mp hid with hin | hin
    · exact hfirst.unmerged id hin
    · obtain ⟨source, hl, hnull⟩ := hsecond.unmerged id hin
      rw [hfirst.tickets, if_neg (hapart id hin)] at hl
      exact ⟨source, hl, hnull⟩
  · intro id
    rw [hsecond.tickets, hfirst.tickets]
    by_cases hin : id ∈ second
    · simp [hin, hapart id hin]
    · simp [hin]
  · have hmap : ∀ message, carriedMessage primaryKey second (carriedMessage primaryKey first message)
        = carriedMessage primaryKey (first ∪ second) message := by
      intro message
      simp only [carriedMessage, carried_carried]
    have hnotes : (first.val.map (sourceNote primaryNumber now)).map (carriedMessage primaryKey second)
        = first.val.map (sourceNote primaryNumber now) := by
      rw [Multiset.map_map]
      exact Multiset.map_congr rfl fun id hid =>
        carriedMessage_sourceNote (Finset.disjoint_left.mp hdisjoint hid)
    have hunion : (first ∪ second).val = first.val + second.val := by
      rw [← Finset.disjUnion_eq_union first second hdisjoint]
      rfl
    rw [hsecond.messages, hfirst.messages, Multiset.map_add, hnotes, Multiset.map_map, hunion, Multiset.map_add,
      ← Multiset.add_assoc]
    simp only [Function.comp_def, hmap]
  · rw [hsecond.attachments, hfirst.attachments, List.map_map]
    congr 1
    funext attachment
    simp only [Function.comp_apply, carriedAttachment, carried_carried]
  · rw [hsecond.elsewhere, hfirst.elsewhere]

-- The sources of the call that are merged by it: known ones that are merged into no ticket.
def newlyMerged (store : TicketStore) (primaryId : String) (sourceTicketIds : List String) : Finset Uuid :=
  ((sourceKeys env primaryId sourceTicketIds).filter fun key => mergedInto store key = none).toFinset

variable {env}

theorem mem_newlyMerged {store : TicketStore} {primaryId : String} {sourceTicketIds : List String} {id : Uuid} :
    id ∈ newlyMerged env store primaryId sourceTicketIds
      ↔ id ∈ sourceKeys env primaryId sourceTicketIds ∧ mergedInto store id = none := by
  simp [newlyMerged]

theorem newlyMerged_skip {store : TicketStore} {primaryId sourceId : String} {key : Uuid}
    (hne : sourceId ≠ primaryId) (hkey : env.castUuid sourceId = some key) (hmerged : mergedInto store key ≠ none)
    (rest : List String) :
    newlyMerged env store primaryId (sourceId :: rest) = newlyMerged env store primaryId rest := by
  ext id
  rw [mem_newlyMerged, mem_newlyMerged, sourceKeys_cons env hne hkey, List.mem_cons]
  constructor
  · rintro ⟨rfl | hin, hnull⟩
    · exact absurd hnull hmerged
    · exact ⟨hin, hnull⟩
  · rintro ⟨hin, hnull⟩
    exact ⟨.inr hin, hnull⟩

theorem newlyMerged_merge {store middle : TicketStore} {primaryId sourceId : String} {key primaryKey : Uuid}
    (hne : sourceId ≠ primaryId) (hkey : env.castUuid sourceId = some key) (hnull : mergedInto store key = none)
    (hpoint : mergedInto middle = point (mergedInto store) key primaryKey) (rest : List String) :
    newlyMerged env store primaryId (sourceId :: rest) = {key} ∪ newlyMerged env middle primaryId rest := by
  ext id
  rw [Finset.mem_union, Finset.mem_singleton, mem_newlyMerged, mem_newlyMerged, sourceKeys_cons env hne hkey,
    List.mem_cons, hpoint]
  by_cases hid : id = key
  · subst hid
    simp [hnull]
  · simp [hid, point_of_ne hid]

-- With every source known, the loop merges those that are merged into no ticket yet.
theorem mergeSources_carried (primaryId : String) (primaryKey : Uuid) (primaryNumber now : Nat)
    (sourceTicketIds : List String) (mergedNumbers : List Nat) (store : TicketStore)
    (hknown : SourcesKnown env store primaryId sourceTicketIds) :
    ∃ numbers after, (mergeSources env primaryId primaryKey primaryNumber now sourceTicketIds
        mergedNumbers).run store = .ok (numbers, after)
      ∧ Carried primaryKey primaryNumber now (newlyMerged env store primaryId sourceTicketIds) store after
      ∧ numbers.length = mergedNumbers.length + (newlyMerged env store primaryId sourceTicketIds).card := by
  induction sourceTicketIds generalizing mergedNumbers store with
  | nil => exact ⟨mergedNumbers, store, rfl, Carried.refl primaryKey primaryNumber now store, rfl⟩
  | cons sourceId rest ih =>
      have hrest : SourcesKnown env store primaryId rest :=
        fun other hother => hknown other (List.mem_cons_of_mem _ hother)
      by_cases hskip : sourceId = primaryId
      · subst hskip
        have hsame : newlyMerged env store sourceId (sourceId :: rest) = newlyMerged env store sourceId rest := by
          rw [newlyMerged, sourceKeys_cons_self, newlyMerged]
        rw [mergeSources_self, hsame]
        exact ih mergedNumbers store hrest
      · obtain ⟨key, hkey, hmem⟩ := hknown sourceId List.mem_cons_self hskip
        obtain ⟨source, hl⟩ := Option.isSome_iff_exists.mp (AList.lookup_isSome.mpr hmem)
        have hpointer : mergedInto store key = source.mergedIntoId := by
          rw [mergedInto, hl, Option.bind_some]
        cases hmerged : source.mergedIntoId with
        | some target =>
            rw [mergeSources_past env hskip hkey hl (by simp [hmerged]),
              newlyMerged_skip hskip hkey (by simp [hpointer, hmerged])]
            exact ih mergedNumbers store hrest
        | none =>
            obtain ⟨middle, hmiddle, hpoint, htickets, hloop⟩ := mergeSources_merging env hskip hkey hl hmerged
            obtain rfl := mergeSource_writes primaryKey primaryNumber now hl _ _ hmiddle
            have hnewly := newlyMerged_merge hskip hkey (hpointer.trans hmerged) hpoint rest
            have hfirst : Carried primaryKey primaryNumber now {key} store
                (afterMerge primaryKey primaryNumber now key source store) := .single hl hmerged
            obtain ⟨numbers, after, hrun, hsecond, hlength⟩ :=
              ih (mergedNumbers ++ [source.ticketNumber]) (afterMerge primaryKey primaryNumber now key source store)
                fun other hother hne => (Known.congr env htickets).mpr (hrest other hother hne)
            refine ⟨numbers, after, (hloop rest mergedNumbers).trans hrun, hnewly ▸ hfirst.trans hsecond, ?_⟩
            rw [hlength, hnewly, Finset.card_union_of_disjoint (hfirst.disjoint hsecond), Finset.card_singleton,
              List.length_append, List.length_singleton]
            omega

-- With every source merged already, it changes nothing.
theorem mergeSources_idle (primaryId : String) (primaryKey : Uuid) (primaryNumber now : Nat)
    (sourceTicketIds : List String) (mergedNumbers : List Nat) {store : TicketStore}
    (hknown : SourcesKnown env store primaryId sourceTicketIds)
    (hmerged : ∀ key ∈ sourceKeys env primaryId sourceTicketIds, mergedInto store key ≠ none) :
    (mergeSources env primaryId primaryKey primaryNumber now sourceTicketIds mergedNumbers).run store
      = .ok (mergedNumbers, store) := by
  induction sourceTicketIds with
  | nil => rfl
  | cons sourceId rest ih =>
      have hrest : SourcesKnown env store primaryId rest :=
        fun other hother => hknown other (List.mem_cons_of_mem _ hother)
      by_cases hskip : sourceId = primaryId
      · subst hskip
        rw [sourceKeys_cons_self] at hmerged
        rw [mergeSources_self, ih hrest hmerged]
      · obtain ⟨key, hkey, hmem⟩ := hknown sourceId List.mem_cons_self hskip
        obtain ⟨source, hl⟩ := Option.isSome_iff_exists.mp (AList.lookup_isSome.mpr hmem)
        rw [sourceKeys_cons env hskip hkey] at hmerged
        have hsome : source.mergedIntoId.isSome := by
          have hne := hmerged key List.mem_cons_self
          rw [mergedInto, hl, Option.bind_some] at hne
          exact Option.isSome_iff_ne_none.mpr hne
        rw [mergeSources_past env hskip hkey hl hsome,
          ih hrest fun other hother => hmerged other (List.mem_cons_of_mem _ hother)]

-- What a merge is to leave: each of its new sources closed, resolved and pointed at the
-- primary with a note on it, their conversation with the primary, which has one note of
-- its own if there are any, and everything else as it was.
structure Conserved (primaryKey : Uuid) (primaryNumber now : Nat) (sources : Finset Uuid)
    (before after : TicketStore) : Prop where
  closed : ∀ id ∈ sources, ∃ source, before.tickets.lookup id = some source ∧ source.mergedIntoId = none
    ∧ after.tickets.lookup id = some (mergedRow primaryKey now source)
  others : ∀ id, id ∉ sources → after.tickets.lookup id = before.tickets.lookup id
  messages : ∃ body, (after.messages : Multiset TicketMessage) =
    (before.messages : Multiset TicketMessage).map (carriedMessage primaryKey sources)
      + sources.val.map (sourceNote primaryNumber now)
      + if sources = ∅ then 0 else {actionNote primaryKey body now}
  attachments : after.attachments = before.attachments.map (carriedAttachment primaryKey sources)
  elsewhere : after = { before with
    tickets := after.tickets, messages := after.messages, attachments := after.attachments }

theorem merge_run {store : TicketStore} {primaryId : String} {primaryKey : Uuid} {primary : Ticket}
    {sourceTicketIds : List String} (hkey : env.castUuid primaryId = some primaryKey)
    (hl : store.tickets.lookup primaryKey = some primary) (hknown : SourcesKnown env store primaryId sourceTicketIds)
    (now : Nat) :
    ∃ result after, (merge env primaryId sourceTicketIds now).run store = .ok (result, after)
      ∧ Conserved primaryKey primary.ticketNumber now (newlyMerged env store primaryId sourceTicketIds) store after := by
  obtain ⟨numbers, middle, hrun, hcarried, hlength⟩ :=
    mergeSources_carried primaryId primaryKey primary.ticketNumber now sourceTicketIds [] store hknown
  have hclosed : ∀ id ∈ newlyMerged env store primaryId sourceTicketIds, ∃ source,
      store.tickets.lookup id = some source ∧ source.mergedIntoId = none
        ∧ middle.tickets.lookup id = some (mergedRow primaryKey now source) := by
    intro id hid
    obtain ⟨source, hsource, hnull⟩ := hcarried.unmerged id hid
    exact ⟨source, hsource, hnull, by rw [hcarried.tickets, if_pos hid, hsource, Option.map_some]⟩
  have hothers : ∀ id, id ∉ newlyMerged env store primaryId sourceTicketIds →
      middle.tickets.lookup id = store.tickets.lookup id := by
    intro id hid
    rw [hcarried.tickets, if_neg hid]
  unfold merge
  rw [run_bind_ok (selectTicket_run env hkey store), hl]
  simp only [Option.map_some]
  rw [run_bind_ok hrun]
  by_cases hnone : newlyMerged env store primaryId sourceTicketIds = ∅
  · have hzero : ¬ 0 < numbers.length := by rw [hlength, hnone]; simp
    rw [if_neg hzero]
    refine ⟨_, middle, rfl, hclosed, hothers, ⟨"", ?_⟩, hcarried.attachments, hcarried.elsewhere⟩
    rw [hcarried.messages, if_pos hnone, Multiset.add_zero]
  · let listed := ", ".intercalate (numbers.map fun number => s!"#{number}")
    have hpos : 0 < numbers.length := by
      rw [hlength]
      have hcard := Finset.card_pos.mpr (Finset.nonempty_iff_ne_empty.mpr hnone)
      omega
    rw [if_pos hpos]
    refine ⟨_, _, rfl, hclosed, hothers, ⟨s!"Merged in ticket(s): {listed}.", ?_⟩, hcarried.attachments, ?_⟩
    · rw [if_neg hnone, ← hcarried.messages]
      exact (Multiset.coe_add _ _).symm
    · have helsewhere := hcarried.elsewhere
      rw [helsewhere]

theorem Conserved.mem_iff {sources : Finset Uuid} (h : Conserved primaryKey primaryNumber now sources before after)
    (id : Uuid) : id ∈ after.tickets ↔ id ∈ before.tickets := by
  rw [← AList.lookup_isSome, ← AList.lookup_isSome]
  by_cases hid : id ∈ sources
  · obtain ⟨source, hl, -, hafter⟩ := h.closed id hid
    rw [hl, hafter, Option.isSome_some, Option.isSome_some]
  · rw [h.others id hid]

-- The same call again finds every source merged, and changes nothing.
theorem merge_again {primaryId : String} {sourceTicketIds : List String} {primary : Ticket} {number time : Nat}
    (hkey : env.castUuid primaryId = some primaryKey) (hl : before.tickets.lookup primaryKey = some primary)
    (hknown : SourcesKnown env before primaryId sourceTicketIds)
    (h : Conserved primaryKey number time (newlyMerged env before primaryId sourceTicketIds) before after)
    (later : Nat) : commit (merge env primaryId sourceTicketIds later) after = after := by
  have hmem : primaryKey ∈ after.tickets := (h.mem_iff primaryKey).mpr (Table.mem_of_lookup hl)
  obtain ⟨row, hrow⟩ := Option.isSome_iff_exists.mp (AList.lookup_isSome.mpr hmem)
  have hagain : SourcesKnown env after primaryId sourceTicketIds :=
    fun sourceId hsource hne => (Known.congr env h.mem_iff).mpr (hknown sourceId hsource hne)
  have hmerged : ∀ key ∈ sourceKeys env primaryId sourceTicketIds, mergedInto after key ≠ none := by
    intro key hin
    by_cases hnew : key ∈ newlyMerged env before primaryId sourceTicketIds
    · obtain ⟨source, -, -, hafter⟩ := h.closed key hnew
      simp [mergedInto, hafter, mergedRow]
    · rw [mergedInto, h.others key hnew]
      exact fun hnull => hnew (mem_newlyMerged.mpr ⟨hin, hnull⟩)
  have hrun : (merge env primaryId sourceTicketIds later).run after = .ok (some row, after) := by
    unfold merge
    rw [run_bind_ok (selectTicket_run env hkey after), hrow]
    simp only [Option.map_some]
    rw [run_bind_ok (mergeSources_idle primaryId primaryKey row.ticketNumber later sourceTicketIds [] hagain hmerged)]
    have hget : (pure (after.tickets.lookup primaryKey) : TicketM (Option Ticket)).run after
        = .ok (some row, after) := by rw [hrow]; rfl
    exact hget
  unfold commit
  rw [hrun]

variable (env)

-- The tickets other than the primary that the sources stand for and that are merged into none.
def newSources (store : TicketStore) (primaryKey : Uuid) (sourceTicketIds : List String) : Finset Uuid :=
  ((sourceTicketIds.filterMap env.castUuid).filter
    fun key => key ≠ primaryKey ∧ mergedInto store key = none).toFinset

def MergeConserves (store : TicketStore) (primaryId : String) (sourceTicketIds : List String) (now : Nat) : Prop :=
  let after := commit (merge env primaryId sourceTicketIds now) store
  (Commits (merge env primaryId sourceTicketIds now) store
      ↔ Known env store primaryId ∧ SourcesKnown env store primaryId sourceTicketIds)
    ∧ (¬ Commits (merge env primaryId sourceTicketIds now) store → after = store)
    ∧ (∀ primaryKey primary, env.castUuid primaryId = some primaryKey →
        store.tickets.lookup primaryKey = some primary → Commits (merge env primaryId sourceTicketIds now) store →
        Conserved primaryKey primary.ticketNumber now (newSources env store primaryKey sourceTicketIds) store after)
    ∧ ∀ later, commit (merge env primaryId sourceTicketIds later) after = after

-- The call goes through, and one of its sources is the unmerged primary in another
-- spelling than the one the primary is given in.
def MergesIntoItself (store : TicketStore) (primaryId : String) (sourceTicketIds : List String) : Prop :=
  SourcesKnown env store primaryId sourceTicketIds
    ∧ ∃ primaryKey, env.castUuid primaryId = some primaryKey ∧ primaryKey ∈ store.tickets
      ∧ mergedInto store primaryKey = none
      ∧ ∃ sourceId ∈ sourceTicketIds, sourceId ≠ primaryId ∧ env.castUuid sourceId = some primaryKey

variable {env}

theorem newlyMerged_eq_newSources {store : TicketStore} {primaryId : String} {sourceTicketIds : List String}
    (hkey : env.castUuid primaryId = some primaryKey)
    (hprimary : primaryKey ∉ newlyMerged env store primaryId sourceTicketIds) :
    newlyMerged env store primaryId sourceTicketIds = newSources env store primaryKey sourceTicketIds := by
  ext key
  rw [mem_newlyMerged, mem_sourceKeys env]
  simp only [newSources, List.mem_toFinset, List.mem_filter, List.mem_filterMap, decide_eq_true_eq]
  constructor
  · rintro ⟨⟨sourceId, hin, hne, hcast⟩, hnull⟩
    refine ⟨⟨sourceId, hin, hcast⟩, ?_, hnull⟩
    rintro rfl
    exact hprimary (mem_newlyMerged.mpr ⟨(mem_sourceKeys env).mpr ⟨sourceId, hin, hne, hcast⟩, hnull⟩)
  · rintro ⟨⟨sourceId, hin, hcast⟩, hne, hnull⟩
    refine ⟨⟨sourceId, hin, ?_, hcast⟩, hnull⟩
    rintro rfl
    exact hne (Option.some.inj (hcast.symm.trans hkey))

theorem merge_conserves_iff (env : Environment) (store : TicketStore) (primaryId : String)
    (sourceTicketIds : List String) (now : Nat) :
    MergeConserves env store primaryId sourceTicketIds now ↔ ¬ MergesIntoItself env store primaryId sourceTicketIds := by
  by_cases hboth : Known env store primaryId ∧ SourcesKnown env store primaryId sourceTicketIds
  · obtain ⟨⟨primaryKey, hkey, hmem⟩, hknown⟩ := hboth
    obtain ⟨primary, hl⟩ := Option.isSome_iff_exists.mp (AList.lookup_isSome.mpr hmem)
    obtain ⟨result, after, hrun, hconserved⟩ := merge_run hkey hl hknown now
    have hcommits : Commits (merge env primaryId sourceTicketIds now) store := ⟨result, after, hrun⟩
    have hafter : commit (merge env primaryId sourceTicketIds now) store = after := by
      unfold commit
      rw [hrun]
    have hitself : MergesIntoItself env store primaryId sourceTicketIds
        ↔ primaryKey ∈ newlyMerged env store primaryId sourceTicketIds := by
      rw [mem_newlyMerged, mem_sourceKeys env]
      constructor
      · rintro ⟨-, other, hother, -, hnull, hsource⟩
        obtain rfl := Option.some.inj (hkey.symm.trans hother)
        exact ⟨hsource, hnull⟩
      · rintro ⟨hsource, hnull⟩
        exact ⟨hknown, primaryKey, hkey, hmem, hnull, hsource⟩
    rw [hitself]
    constructor
    · rintro ⟨-, -, hresult, -⟩ hin
      have hcalled := hresult primaryKey primary hkey hl hcommits
      rw [hafter] at hcalled
      -- the primary's own row is to stay, and has been closed and pointed at itself
      have hstays := hcalled.others primaryKey (by simp [newSources])
      obtain ⟨source, hsource, hnull, hclosed⟩ := hconserved.closed primaryKey hin
      rw [hclosed, hsource, Option.some.injEq] at hstays
      have hpointer := congrArg Ticket.mergedIntoId hstays
      simp [mergedRow, hnull] at hpointer
    · intro hnotin
      have hsources := newlyMerged_eq_newSources hkey hnotin
      refine ⟨iff_of_true hcommits ⟨⟨primaryKey, hkey, hmem⟩, hknown⟩, fun h => absurd hcommits h, ?_, ?_⟩
      · intro other otherPrimary hother hotherRow _
        obtain rfl := Option.some.inj (hkey.symm.trans hother)
        obtain rfl := Option.some.inj (hl.symm.trans hotherRow)
        rw [hafter, ← hsources]
        exact hconserved
      · intro later
        rw [hafter]
        exact merge_again hkey hl hknown hconserved later
  · obtain ⟨error, herror⟩ := merge_run_error env hboth now
    have hraises : ¬ Commits (merge env primaryId sourceTicketIds now) store := Commits.not_of_error herror
    have hsame : ∀ time, commit (merge env primaryId sourceTicketIds time) store = store := by
      intro time
      obtain ⟨error, herror⟩ := merge_run_error env hboth time
      simp only [commit, herror]
    refine iff_of_true ⟨iff_of_false hraises hboth, fun _ => hsame now, fun _ _ _ _ h => absurd h hraises, ?_⟩ ?_
    · intro later
      rw [hsame now, hsame later]
    · rintro ⟨hknown, primaryKey, hkey, hmem, -⟩
      exact hboth ⟨⟨primaryKey, hkey, hmem⟩, hknown⟩

def firstIdUpperCase : String := "7C9E6679-7425-40DE-944B-E07FC1F90AE7"

-- A uuid may be written in either case.
def twoSpellings : Environment :=
  { twoIds with castUuid := fun text => if text = firstIdUpperCase then some 1 else twoIds.castUuid text }

-- The primary, given once more in upper case, is closed and merged into itself.
theorem upper_case_merges_into_itself :
    ¬ ∀ (env : Environment) (store : TicketStore) (primaryId : String) (sourceTicketIds : List String) (now : Nat),
      MergeConserves env store primaryId sourceTicketIds now := by
  intro h
  obtain ⟨-, -, hresult, -⟩ := h twoSpellings twoTickets firstId [firstIdUpperCase] 10
  have hstays := (hresult 1 (unmergedTicket 1) (by decide) (by decide) ⟨_, _, rfl⟩).others 1 (by decide)
  have hclosed : (commit (merge twoSpellings firstId [firstIdUpperCase] 10) twoTickets).tickets.lookup 1
      = some (mergedRow 1 10 (unmergedTicket 1)) := by decide
  rw [hclosed] at hstays
  exact absurd hstays (by decide)

end CloudOps.Ticketing
