import CloudOps.Ticketing.MergePointers
import CloudOps.Ticketing.TimeAutomationSweep

namespace CloudOps.Ticketing.TimeAutomation

open CloudOps.ReadCommitted

abbrev SweepTable := Table SweepKey SweepRow
abbrev SweepWorld := World SweepKey SweepRow (List (Uuid × Uuid)) SweepCall
abbrev SweepDb := Db SweepKey SweepRow ServiceError (List (Uuid × Uuid)) SweepCall

-- The applications of all committed passes, rule and ticket of each.
def applications (world : SweepWorld) : List (Uuid × Uuid) :=
  world.returned.flatMap Returned.value

def ActionRef.target (ref : ActionRef) : Uuid × Uuid := (ref.ruleId, ref.ticketId)

-- The execution record of a rule and a ticket.
def recordKey (target : Uuid × Uuid) : SweepKey := .application target.1 target.2

-- Everything the passes have committed: each application once, each action's row
-- once, and no action's row without the execution record.
structure AppliedOnce (world : SweepWorld) : Prop where
  applications : (applications world).Nodup
  rows : ∀ key other row otherRow ref, world.committed.lookup key = some row →
    world.committed.lookup other = some otherRow → row.writtenBy = some ref →
    otherRow.writtenBy = some ref → key = other
  recorded : ∀ key row ref, world.committed.lookup key = some row → row.writtenBy = some ref →
    recordKey ref.target ∈ world.committed

-- A step that is not the commit of a pass that has run to its end leaves nothing
-- behind.
def FailedLeavesNothing (env : Environment) (db : SweepDb) (event : Event SweepKey SweepRow SweepCall) :
    Prop :=
  ¬ RelyGuarantee.Commits db event →
    (db.step (timeSweepService env) event).world.committed = db.world.committed

def AppliesOnce (env : Environment) (start : SweepDb) (events : List (Event SweepKey SweepRow SweepCall)) :
    Prop :=
  Runs.Always (Db.step (timeSweepService env)) (fun db => AppliedOnce db.world) start events ∧
  Runs.AllSteps (Db.step (timeSweepService env)) (FailedLeavesNothing env) start events

-- A pass about to commit actions whose execution record another pass has committed
-- since this one looked for it, so that its own INSERT did nothing.
def appliesRecorded (world : SweepWorld) (applied : List (Uuid × Uuid)) : Bool :=
  applied.any fun target => decide (recordKey target ∈ world.committed)

def NoLateRecord : SweepDb → Event SweepKey SweepRow SweepCall → Prop :=
  CommitMeets fun world _ _ applied => appliesRecorded world applied = false

instance (db : SweepDb) : DecidablePred (NoLateRecord db) :=
  inferInstanceAs (DecidablePred (CommitMeets
    (fun world _ _ applied => appliesRecorded world applied = false) db))

section Pass

-- What others may do between two statements of a pass: execution records stay.
def KeepsRecords (before after : SweepWorld) : Prop :=
  ∀ target, recordKey target ∈ before.committed → recordKey target ∈ after.committed

variable {start : SweepTable}

-- The invariant of all that is committed. `start` is what was there at first.
structure SweepInv (start : SweepTable) (world : SweepWorld) : Prop extends AppliedOnce world where
  logged : ∀ target ∈ TimeAutomation.applications world, recordKey target ∈ world.committed
  known : ∀ target, recordKey target ∈ world.committed →
    recordKey target ∈ start ∨ target ∈ TimeAutomation.applications world
  initial : ∀ target, recordKey target ∈ start → recordKey target ∈ world.committed

-- The rows a pass has written for its actions: new ones, one for each action, and
-- only for actions it has come to.
structure WroteFor (come : ActionRef → Prop) (world : SweepWorld) (writes : SweepTable) : Prop where
  own : ∀ key row ref, writes.lookup key = some row → row.writtenBy = some ref →
    key ∉ world.committed ∧ come ref
  once : ∀ key other row otherRow ref, writes.lookup key = some row →
    writes.lookup other = some otherRow → row.writtenBy = some ref → otherRow.writtenBy = some ref →
    key = other

-- The applications a pass has completed.
structure Completed (start : SweepTable) (applied : List (Uuid × Uuid)) (world : SweepWorld)
    (writes : SweepTable) : Prop where
  nodup : applied.Nodup
  unknown : ∀ target ∈ applied, recordKey target ∉ start
  recorded : ∀ target ∈ applied, recordKey target ∈ writes ∪ world.committed
  inserted : ∀ target, recordKey target ∈ writes → target ∈ applied ∧ recordKey target ∉ world.committed

variable {rely : SweepWorld → SweepWorld → Prop} {inv : SweepWorld → Prop}

theorem WroteFor.stable {come : ActionRef → Prop} {before after : SweepWorld} {writes : SweepTable}
    (h : WroteFor come before writes) (hi : Interferes rely inv writes before after) :
    WroteFor come after writes where
  own key row ref hw href := by
    obtain ⟨hnew, hcome⟩ := h.own key row ref hw href
    refine ⟨?_, hcome⟩
    rw [← AList.lookup_eq_none] at hnew ⊢
    exact (hi.2.2 key (Table.mem_of_lookup hw)).trans hnew
  once := h.once

theorem Completed.stable (hrely : ∀ before after, rely before after → KeepsRecords before after)
    {applied : List (Uuid × Uuid)} {before after : SweepWorld} {writes : SweepTable}
    (h : Completed start applied before writes) (hi : Interferes rely inv writes before after) :
    Completed start applied after writes where
  nodup := h.nodup
  unknown := h.unknown
  recorded target ht := by
    rcases AList.mem_union.mp (h.recorded target ht) with hw | hc
    · exact AList.mem_union.mpr (.inl hw)
    · exact AList.mem_union.mpr (.inr (hrely _ _ hi.1 target hc))
  inserted target hw := by
    obtain ⟨ha, hnew⟩ := h.inserted target hw
    refine ⟨ha, ?_⟩
    rw [← AList.lookup_eq_none] at hnew ⊢
    exact (hi.2.2 _ hw).trans hnew

theorem WroteFor.mono {come other : ActionRef → Prop} {world : SweepWorld} {writes : SweepTable}
    (h : WroteFor come world writes) (himp : ∀ ref, come ref → other ref) :
    WroteFor other world writes where
  own key row ref hw href := by
    obtain ⟨hnew, hcome⟩ := h.own key row ref hw href
    exact ⟨hnew, himp ref hcome⟩
  once := h.once

-- A row that no action is the writer of changes nothing of this.
theorem WroteFor.insert_plain {come : ActionRef → Prop} {world : SweepWorld} {writes : SweepTable}
    (h : WroteFor come world writes) (key : SweepKey) {row : SweepRow} (hrow : row.writtenBy = none) :
    WroteFor come world (writes.insert key row) := by
  have hwrites : ∀ other otherRow ref, (writes.insert key row).lookup other = some otherRow →
      otherRow.writtenBy = some ref → writes.lookup other = some otherRow := by
    intro other otherRow ref ho href
    rw [Table.lookup_insert_eq] at ho
    split at ho
    · obtain rfl := Option.some.inj ho
      simp [hrow] at href
    · exact ho
  exact {
    own := fun other otherRow ref ho href => h.own other otherRow ref (hwrites _ _ ref ho href) href
    once := fun first second firstRow secondRow ref hf hs hfr hsr =>
      h.once first second firstRow secondRow ref (hwrites _ _ ref hf hfr) (hwrites _ _ ref hs hsr) hfr hsr }

-- The row of an action that has none yet.
theorem WroteFor.insert_new {come : ActionRef → Prop} {world : SweepWorld} {writes : SweepTable}
    (h : WroteFor come world writes) {key : SweepKey} {row : SweepRow} {ref : ActionRef}
    (hnew : key ∉ world.committed) (hrow : row.writtenBy = some ref) (hnot : ¬ come ref) :
    WroteFor (fun other => come other ∨ other = ref) world (writes.insert key row) := by
  have hcases : ∀ other otherRow otherRef, (writes.insert key row).lookup other = some otherRow →
      otherRow.writtenBy = some otherRef →
      other = key ∧ otherRef = ref ∨
        writes.lookup other = some otherRow ∧ other ∉ world.committed ∧ come otherRef := by
    intro other otherRow otherRef ho href
    rw [Table.lookup_insert_eq] at ho
    split at ho
    · rename_i he
      obtain rfl := Option.some.inj ho
      exact .inl ⟨he, Option.some.inj (href.symm.trans hrow)⟩
    · exact .inr ⟨ho, h.own other otherRow otherRef ho href⟩
  constructor
  · intro other otherRow otherRef ho href
    rcases hcases other otherRow otherRef ho href with ⟨rfl, rfl⟩ | ⟨-, hfresh, hcome⟩
    · exact ⟨hnew, .inr rfl⟩
    · exact ⟨hfresh, .inl hcome⟩
  · intro first second firstRow secondRow shared hf hs hfr hsr
    rcases hcases first firstRow shared hf hfr with ⟨rfl, rfl⟩ | ⟨hfw, -, hfc⟩
    · rcases hcases second secondRow _ hs hsr with ⟨rfl, -⟩ | ⟨-, -, hsc⟩
      · rfl
      · exact absurd hsc hnot
    · rcases hcases second secondRow shared hs hsr with ⟨-, rfl⟩ | ⟨hsw, -, -⟩
      · exact absurd hfc hnot
      · exact h.once first second firstRow secondRow shared hfw hsw hfr hsr

-- A row under another kind of key leaves the applications as they are.
theorem Completed.insert_other {applied : List (Uuid × Uuid)} {world : SweepWorld} {writes : SweepTable}
    (h : Completed start applied world writes) {key : SweepKey} (row : SweepRow)
    (hkey : ∀ target, recordKey target ≠ key) :
    Completed start applied world (writes.insert key row) := by
  have hmem : ∀ target, recordKey target ∈ writes.insert key row ↔ recordKey target ∈ writes := by
    intro target
    rw [AList.mem_insert, or_iff_right (hkey target)]
  exact {
    nodup := h.nodup
    unknown := h.unknown
    recorded := fun target ht => by
      rw [AList.mem_union, hmem, ← AList.mem_union]
      exact h.recorded target ht
    inserted := fun target hw => h.inserted target ((hmem target).mp hw) }

theorem recordKey_injective {target other : Uuid × Uuid} (h : recordKey target = recordKey other) :
    target = other := by
  simp only [recordKey, SweepKey.application.injEq] at h
  exact Prod.ext h.1 h.2

-- One more application whose record is there, and no other record is new.
theorem Completed.grow {applied : List (Uuid × Uuid)} {world : SweepWorld} {writes later : SweepTable}
    (h : Completed start applied world writes) {target : Uuid × Uuid} (hnew : target ∉ applied)
    (hstart : recordKey target ∉ start) (hrecorded : recordKey target ∈ later ∪ world.committed)
    (hkept : ∀ key ∈ writes, key ∈ later)
    (hinserted : ∀ other, recordKey other ∈ later →
      recordKey other ∈ writes ∨ other = target ∧ recordKey target ∉ world.committed) :
    Completed start (applied ++ [target]) world later where
  nodup := by
    rw [← List.concat_eq_append]
    exact h.nodup.concat hnew
  unknown other ho := by
    rcases List.mem_append.mp ho with ho | ho
    · exact h.unknown other ho
    · exact List.mem_singleton.mp ho ▸ hstart
  recorded other ho := by
    rcases List.mem_append.mp ho with ho | ho
    · exact AList.mem_union.mpr ((AList.mem_union.mp (h.recorded other ho)).imp_left (hkept _))
    · exact List.mem_singleton.mp ho ▸ hrecorded
  inserted other hl := by
    rcases hinserted other hl with hw | ⟨rfl, hfresh⟩
    · obtain ⟨ha, hother⟩ := h.inserted other hw
      exact ⟨List.mem_append_left _ ha, hother⟩
    · exact ⟨List.mem_append_right _ (List.mem_singleton_self other), hfresh⟩

-- The record is there, whoever has put it there.
theorem Completed.add {applied : List (Uuid × Uuid)} {world : SweepWorld} {writes : SweepTable}
    (h : Completed start applied world writes) {target : Uuid × Uuid} (hnew : target ∉ applied)
    (hstart : recordKey target ∉ start) (hrecorded : recordKey target ∈ writes ∪ world.committed) :
    Completed start (applied ++ [target]) world writes :=
  h.grow hnew hstart hrecorded (fun _ hw => hw) fun _ hw => .inl hw

-- The pass puts it there itself.
theorem Completed.record {applied : List (Uuid × Uuid)} {world : SweepWorld} {writes : SweepTable}
    (h : Completed start applied world writes) {target : Uuid × Uuid} (hnew : target ∉ applied)
    (hstart : recordKey target ∉ start) (hfresh : recordKey target ∉ world.committed) :
    Completed start (applied ++ [target]) world (writes.insert (recordKey target) .application) := by
  apply h.grow hnew hstart
  · exact AList.mem_union.mpr (.inl ((AList.mem_insert _).mpr (.inl rfl)))
  · exact fun key hw => (AList.mem_insert _).mpr (.inr hw)
  · intro other hw
    rcases (AList.mem_insert _).mp hw with he | hw
    · exact .inr ⟨recordKey_injective he, hfresh⟩
    · exact .inl hw

-- Where a pass stands: the applications it has completed, and the actions it has
-- come to.
structure Going (start : SweepTable) (applied : List (Uuid × Uuid)) (come : ActionRef → Prop)
    (world : SweepWorld) (writes : SweepTable) : Prop where
  completed : Completed start applied world writes
  wrote : WroteFor come world writes

theorem Going.stable (hrely : ∀ before after, rely before after → KeepsRecords before after)
    {applied : List (Uuid × Uuid)} {come : ActionRef → Prop} {before after : SweepWorld}
    {writes : SweepTable} (h : Going start applied come before writes)
    (hi : Interferes rely inv writes before after) : Going start applied come after writes :=
  ⟨h.completed.stable hrely hi, h.wrote.stable hi⟩

theorem Going.mono {applied : List (Uuid × Uuid)} {come other : ActionRef → Prop} {world : SweepWorld}
    {writes : SweepTable} (h : Going start applied come world writes)
    (himp : ∀ ref, come ref → other ref) : Going start applied other world writes :=
  ⟨h.completed, h.wrote.mono himp⟩

-- A new version of a ticket.
theorem Going.update {applied : List (Uuid × Uuid)} {come : ActionRef → Prop} {world : SweepWorld}
    {writes : SweepTable} (h : Going start applied come world writes) (id : Uuid) (row : Ticket) :
    Going start applied come world (writes.insert (.ticket id) (.ticket row)) :=
  ⟨h.completed.insert_other _ (by simp [recordKey]), h.wrote.insert_plain _ rfl⟩

-- A candidate is a ticket the rule has no record of, in what its statement sees.
theorem mem_candidates {rule : TimeRule} {now : Nat} {table : SweepTable}
    {rows : List (SweepKey × SweepRow)}
    (hrows : rows.Perm (table.rows.filter fun row => relevant rule now row.1 row.2))
    {candidate : Uuid × Ticket} (h : candidate ∈ candidates rule rows) :
    recordKey (rule.id, candidate.1) ∉ table := by
  obtain ⟨⟨key, row⟩, -, hcandidate⟩ := List.mem_filterMap.mp h
  unfold candidateOf at hcandidate
  split at hcandidate
  · split at hcandidate
    · cases hcandidate
    · rename_i hnone
      obtain rfl := Option.some.inj hcandidate
      intro hthere
      obtain ⟨found, hfound⟩ := Option.isSome_iff_exists.mp (AList.lookup_isSome.mpr hthere)
      refine hnone (List.mem_map.mpr ⟨(_, found), hrows.mem_iff.mpr (List.mem_filter.mpr ⟨?_, ?_⟩), rfl⟩)
      · exact Table.mem_rows.mpr hfound
      · simp [relevant]
  · cases hcandidate

theorem nodup_candidates (rule : TimeRule) {rows : List (SweepKey × SweepRow)}
    (hnodup : (rows.map Prod.fst).Nodup) : ((candidates rule rows).map Prod.fst).Nodup := by
  have hsublist : ∀ list : List (SweepKey × SweepRow),
      ((list.filterMap (candidateOf rule rows)).map fun candidate => SweepKey.ticket candidate.1).Sublist
        (list.map Prod.fst) := by
    intro list
    induction list with
    | nil => exact List.Sublist.refl _
    | cons row rest ih =>
        rw [List.filterMap_cons]
        split
        · exact ih.cons _
        · rename_i candidate hcandidate
          have hkey : row.1 = SweepKey.ticket candidate.1 := by
            unfold candidateOf at hcandidate
            split at hcandidate
            · split at hcandidate
              · cases hcandidate
              · obtain rfl := Option.some.inj hcandidate
                rfl
            · cases hcandidate
          rw [List.map_cons, List.map_cons, hkey]
          exact ih.cons_cons _
  have hkeys := hnodup.sublist (hsublist rows)
  rw [show (fun candidate : Uuid × Ticket => SweepKey.ticket candidate.1) = SweepKey.ticket ∘ Prod.fst from rfl,
    ← List.map_map] at hkeys
  exact hkeys.of_map _

section Statements

variable (hrefl : ∀ world, rely world world)
  (hrely : ∀ before after, rely before after → KeepsRecords before after)
  {applied : List (Uuid × Uuid)} {come : ActionRef → Prop} {world : SweepWorld} {writes : SweepTable}

include hrely

theorem Going.ret {α : Type} (h : Going start applied come world writes) (value : α) :
    (Prog.ret value : SweepProg α).wp rely inv (fun world writes _ => Going start applied come world writes)
      writes world :=
  fun _ ha => h.stable hrely ha

theorem insertGenerated_going (h : Going start applied come world writes) {row : SweepRow}
    {ref : ActionRef} (hrow : row.writtenBy = some ref) (hnot : ¬ come ref) :
    (insertGenerated row).wp rely inv
      (fun world writes _ => Going start applied (fun other => come other ∨ other = ref) world writes)
      writes world := by
  intro after ha
  refine ⟨fun id hw hc => ?_, trivial⟩
  cases id with
  | generated id =>
      have hafter := h.stable hrely ha
      have hnew : Going start applied (fun other => come other ∨ other = ref) after
          (writes.insert (.generated id) row) :=
        ⟨hafter.completed.insert_other row (by simp [recordKey]), hafter.wrote.insert_new hc hrow hnot⟩
      exact Going.ret hrely hnew ()
  | ticket | application => trivial

-- The record is written, or waited for and found.
theorem insertApplication_going {target : Uuid × Uuid}
    (h : Going start applied (fun ref => ref.target ∈ applied ∨ ref.target = target) world writes)
    (hnew : target ∉ applied) (hstart : recordKey target ∉ start) :
    (insertApplication target.1 target.2).wp rely inv
      (fun world writes _ => Going start (applied ++ [target])
        (fun ref => ref.target ∈ applied ++ [target]) world writes) writes world := by
  have hcome : ∀ ref : ActionRef, ref.target ∈ applied ∨ ref.target = target →
      ref.target ∈ applied ++ [target] := by
    rintro ref (hmem | htarget)
    · exact List.mem_append_left _ hmem
    · exact List.mem_append_right _ (List.mem_singleton.mpr htarget)
  intro after ha
  have hafter := h.stable hrely ha
  rw [show SweepKey.application target.1 target.2 = recordKey target from rfl]
  cases hfound : (writes ∪ after.committed).lookup (recordKey target) with
  | some found =>
      refine ⟨fun _ => ?_, fun row hsome => by simp at hsome⟩
      have hthere := hafter.completed.add hnew hstart (Table.mem_of_lookup hfound)
      exact Going.ret hrely ⟨hthere, hafter.wrote.mono hcome⟩ ()
  | none =>
      refine ⟨fun hnone => by simp at hnone, fun row hsome => ?_⟩
      obtain rfl : SweepRow.application = row := Option.some.inj hsome
      have hmissing := AList.lookup_eq_none.mp hfound
      rw [AList.mem_union, not_or] at hmissing
      exact Going.ret hrely ⟨hafter.completed.record hnew hstart hmissing.2,
        (hafter.wrote.mono hcome).insert_plain _ rfl⟩ ()

include hrefl

theorem sweepAction_going (env : Environment) (reads : TicketStore) (now : Nat) {ref : ActionRef}
    (h : Going start applied come world writes) (hnot : ¬ come ref) (ticket : Ticket)
    (action : AutomationAction) :
    (sweepAction env reads now ref ticket action).wp rely inv
      (fun world writes _ => Going start applied (fun other => come other ∨ other = ref) world writes)
      writes world := by
  have hret : ∀ {world writes} (value : Ticket), Going start applied come world writes →
      (Prog.ret value : SweepProg Ticket).wp rely inv
        (fun world writes _ => Going start applied (fun other => come other ∨ other = ref) world writes)
        writes world := fun value h => Going.ret hrely (h.mono fun _ => .inl) value
  have hinsert : ∀ {world writes} (row : SweepRow) (value : Ticket), row.writtenBy = some ref →
      Going start applied come world writes →
      (insertGenerated row >>= fun _ => Prog.ret value).wp rely inv
        (fun world writes _ => Going start applied (fun other => come other ∨ other = ref) world writes)
        writes world := fun row value hrow h => Prog.wp.bind hrefl
      ((insertGenerated_going hrely h hrow hnot).mono fun _ _ _ _ hdone => Going.ret hrely hdone value)
  unfold sweepAction
  cases action.type.field with
  | some field =>
      dsimp only
      split
      · exact hret ticket h
      split
      · trivial
      rw [Prog.update_bind]
      intro after ha
      refine ⟨fun _ => trivial, fun row _ => ?_⟩
      cases row with
      | ticket row => exact hinsert _ row rfl ((h.stable hrely ha).update ref.ticketId row)
      | application | activity | message => trivial
  | none =>
      dsimp only
      split
      · exact hinsert _ ticket rfl h
      split
      · exact hret ticket h
      split
      · exact hret ticket h
      rw [Prog.update_bind]
      intro after ha
      refine ⟨fun _ => trivial, fun row _ => ?_⟩
      cases row with
      | ticket row => exact hret row ((h.stable hrely ha).update ref.ticketId row)
      | application | activity | message => trivial

-- The actions of one rule for one ticket, from the one at `index` on.
theorem sweepActions_going (env : Environment) (reads : TicketStore) (now : Nat) (ruleId ticketId : Uuid)
    (actions : List AutomationAction) {index : Nat} (ticket : Ticket)
    (h : Going start applied come world writes)
    (hnot : ∀ later, index ≤ later → ¬ come ⟨ruleId, ticketId, later⟩) :
    (sweepActions env reads now ruleId ticketId index actions ticket).wp rely inv
      (fun world writes _ => Going start applied
        (fun ref => come ref ∨ ref.target = (ruleId, ticketId)) world writes) writes world := by
  induction actions generalizing index ticket come world writes with
  | nil => exact Going.ret hrely (h.mono fun _ => .inl) ticket
  | cons action rest ih =>
      refine Prog.wp.bind hrefl ?_
      refine Prog.wp.mono (sweepAction_going hrefl hrely env reads now h (hnot index (Nat.le_refl index))
        ticket action) fun world writes row _ hgoing => ?_
      have hrest : ∀ later, index + 1 ≤ later →
          ¬ (come ⟨ruleId, ticketId, later⟩ ∨
            (⟨ruleId, ticketId, later⟩ : ActionRef) = ⟨ruleId, ticketId, index⟩) := by
        rintro later hlater (hcome | hsame)
        · exact hnot later (by omega) hcome
        · have hindex := congrArg ActionRef.index hsame
          dsimp only at hindex
          omega
      refine (ih row hgoing hrest).mono fun world writes _ _ hdone => hdone.mono ?_
      rintro ref ((hcome | rfl) | htarget)
      · exact .inl hcome
      · exact .inr rfl
      · exact .inr htarget

-- The loop over the candidates of a rule.
theorem sweepCandidates_going (env : Environment) (reads : TicketStore) (now : Nat) (rule : TimeRule)
    (rest : List (Uuid × Ticket)) (hnodup : (rest.map Prod.fst).Nodup)
    (h : Going start applied (fun ref => ref.target ∈ applied) world writes)
    (hnew : ∀ candidate ∈ rest, (rule.id, candidate.1) ∉ applied ∧
      recordKey (rule.id, candidate.1) ∉ start) :
    (sweepCandidates env reads now rule rest applied).wp rely inv
      (fun world writes applied => Going start applied (fun ref => ref.target ∈ applied) world writes)
      writes world := by
  induction rest generalizing applied world writes with
  | nil => exact fun after ha => h.stable hrely ha
  | cons candidate rest ih =>
      obtain ⟨id, ticket⟩ := candidate
      rw [List.map_cons, List.nodup_cons] at hnodup
      obtain ⟨hfresh, hstart⟩ := hnew (id, ticket) (by simp)
      unfold sweepCandidates
      split
      · refine Prog.wp.bind hrefl (Prog.wp.mono (sweepActions_going hrefl hrely env reads now rule.id id
          rule.actions ticket h fun later _ hcome => hfresh hcome) fun world writes _ _ hacted => ?_)
        refine Prog.wp.bind hrefl (Prog.wp.mono (insertApplication_going hrely hacted hfresh hstart)
          fun world writes _ _ hdone => ih hnodup.2 hdone fun other ho => ?_)
        refine ⟨fun hmem => ?_, (hnew other (List.mem_cons_of_mem _ ho)).2⟩
        rcases List.mem_append.mp hmem with hmem | hmem
        · exact (hnew other (List.mem_cons_of_mem _ ho)).1 hmem
        · have hid := congrArg Prod.snd (List.mem_singleton.mp hmem)
          exact hnodup.1 (List.mem_map.mpr ⟨other, ho, hid⟩)
      · exact ih hnodup.2 h fun other ho => hnew other (List.mem_cons_of_mem _ ho)

theorem sweepRules_going (hinv : ∀ world, inv world → ∀ target, recordKey target ∈ start →
      recordKey target ∈ world.committed) (env : Environment) (reads : TicketStore) (now : Nat)
    (rules : List TimeRule) (h : Going start applied (fun ref => ref.target ∈ applied) world writes) :
    (sweepRules env reads now rules applied).wp rely inv
      (fun world writes applied => Going start applied (fun ref => ref.target ∈ applied) world writes)
      writes world := by
  induction rules generalizing applied world writes with
  | nil => exact fun after ha => h.stable hrely ha
  | cons rule rest ih =>
      unfold sweepRules
      rw [Prog.query_bind]
      intro after ha rows hrows
      have hafter := h.stable hrely ha
      have hnodup : (rows.map Prod.fst).Nodup := Table.nodup_ids_of_perm hrows
      refine Prog.wp.bind hrefl (Prog.wp.mono (sweepCandidates_going hrefl hrely env reads now rule
        (candidates rule rows) (nodup_candidates rule hnodup) hafter fun candidate hc => ?_)
        fun world writes applied _ hdone => ih hdone)
      have hmissing := mem_candidates hrows hc
      refine ⟨fun hmem => hmissing (hafter.completed.recorded _ hmem), fun hstart => hmissing ?_⟩
      exact AList.mem_union.mpr (.inr (hinv after ha.2.1 _ hstart))

end Statements

-- What a pass commits keeps the invariant unless a record was late.
theorem SweepInv.publish {world : SweepWorld} {writes : SweepTable} {applied : List (Uuid × Uuid)}
    (h : SweepInv start world) (hdone : Going start applied (fun ref => ref.target ∈ applied) world writes)
    (hcondition : appliesRecorded world applied = false) (call : SweepCall) (begunOn : SweepTable)
    (startedAt : Nat) : SweepInv start (world.publish call begunOn startedAt writes applied) := by
  have hlog : TimeAutomation.applications (world.publish call begunOn startedAt writes applied) =
      TimeAutomation.applications world ++ applied := by
    simp [TimeAutomation.applications, World.publish]
  have hnew : ∀ target ∈ applied, recordKey target ∉ world.committed := by
    simpa [appliesRecorded] using hcondition
  -- an action's row that was there before has its record, one of the pass has none
  have hmixed : ∀ key row other otherRow ref, writes.lookup key = some row →
      world.committed.lookup other = some otherRow → row.writtenBy = some ref →
      otherRow.writtenBy = some ref → False := by
    intro key row other otherRow ref hw hc href hotherRef
    exact hnew _ (hdone.wrote.own key row ref hw href).2 (h.recorded other otherRow ref hc hotherRef)
  constructor
  · constructor
    · rw [hlog, List.nodup_append]
      refine ⟨h.applications, hdone.completed.nodup, ?_⟩
      rintro target hl other ha rfl
      exact hnew target ha (h.logged target hl)
    · intro key other row otherRow ref hk ho href hotherRef
      rcases Table.lookup_union_cases hk with hk | ⟨-, hk⟩ <;>
        rcases Table.lookup_union_cases ho with ho | ⟨-, ho⟩
      · exact hdone.wrote.once key other row otherRow ref hk ho href hotherRef
      · exact (hmixed key row other otherRow ref hk ho href hotherRef).elim
      · exact (hmixed other otherRow key row ref ho hk hotherRef href).elim
      · exact h.rows key other row otherRow ref hk ho href hotherRef
    · intro key row ref hk href
      rcases Table.lookup_union_cases hk with hw | ⟨-, hc⟩
      · exact hdone.completed.recorded _ (hdone.wrote.own key row ref hw href).2
      · exact AList.mem_union.mpr (.inr (h.recorded key row ref hc href))
  · intro target ht
    rw [hlog] at ht
    rcases List.mem_append.mp ht with hl | ha
    · exact AList.mem_union.mpr (.inr (h.logged target hl))
    · exact hdone.completed.recorded target ha
  · intro target ht
    rw [hlog]
    rcases AList.mem_union.mp ht with hw | hc
    · exact .inr (List.mem_append_right _ (hdone.completed.inserted target hw).1)
    · exact (h.known target hc).imp_right fun hl => List.mem_append_left _ hl
  · exact fun target ht => AList.mem_union.mpr (.inr (h.initial target ht))

def timeSweeps (env : Environment) (start : SweepTable) : RelyGuarantee (timeSweepService env) where
  rely := KeepsRecords
  inv := SweepInv start
  post _ _ _ world writes applied :=
    Going start applied (fun ref => ref.target ∈ applied) world writes
  condition world _ _ applied := appliesRecorded world applied = false
  refl _ _ h := h
  trans _ _ _ hab hbc target h := hbc target (hab target h)
  tick _ _ h := ⟨⟨⟨h.applications, h.rows, h.recorded⟩, h.logged, h.known, h.initial⟩, fun _ ht => ht⟩
  body call world _ := by
    refine sweepRules_going (fun _ _ h => h) (fun _ _ h => h) (fun _ h => h.initial) env call.reads
      world.clock call.rules ⟨⟨List.nodup_nil, by simp, by simp, by simp⟩, ⟨by simp, by simp⟩⟩
  commit call begunOn startedAt _ _ _ h hdone hcondition :=
    ⟨h.publish hdone hcondition call begunOn startedAt, fun _ ht => AList.mem_union.mpr (.inr ht)⟩

end Pass

-- The actions of a rule are applied once for each ticket in exactly the runs in which
-- no pass commits them behind a record that another pass has committed first.
theorem applies_once_iff (env : Environment) (committed : SweepTable) (clock : Nat)
    (hstart : ∀ key row, committed.lookup key = some row → row.writtenBy = none)
    (events : List (Event SweepKey SweepRow SweepCall)) :
    AppliesOnce env (Db.start (World.start committed clock)) events ↔
      Runs.AllSteps (Db.step (timeSweepService env)) NoLateRecord
        (Db.start (World.start committed clock)) events := by
  have hinv : SweepInv committed (World.start committed clock) := by
    refine ⟨⟨List.nodup_nil, ?_, ?_⟩, by simp [applications, World.start], fun _ h => .inl h, fun _ h => h⟩
    · intro key other row otherRow ref hk _ href
      simp [hstart key row hk] at href
    · intro key row ref hk href
      simp [hstart key row hk] at href
  have hneed : ∀ db event, (timeSweeps env committed).Holds db →
      AppliedOnce (db.step (timeSweepService env) event).world → NoLateRecord db event := by
    intro db event h
    refine RelyGuarantee.commitMeets_of_step AppliedOnce h (fun call begunOn startedAt writes applied
      hdone hafter => ?_) event
    refine Bool.eq_false_iff.mpr fun hlate => ?_
    simp only [appliesRecorded, List.any_eq_true, decide_eq_true_eq] at hlate
    obtain ⟨target, ha, hrecorded⟩ := hlate
    have hlogged := (h.inv.known target hrecorded).resolve_left (hdone.completed.unknown target ha)
    have hlog := hafter.applications
    simp only [applications, World.publish, List.flatMap_append, List.flatMap_singleton,
      List.nodup_append] at hlog
    exact hlog.2.2 target hlogged target ha rfl
  have hholds : (timeSweeps env committed).Holds (Db.start (World.start committed clock)) := .start hinv
  have hiff := Runs.always_iff_allSteps events hholds (fun _ h => h.inv.toAppliedOnce)
    (fun _ _ h hc => (h.step hc).1) hneed
  have hfailed : Runs.AllSteps (Db.step (timeSweepService env)) (FailedLeavesNothing env)
      (Db.start (World.start committed clock)) events :=
    Runs.allSteps_of_step (fun _ => True) trivial (fun _ _ _ => trivial)
      (fun _ _ _ hcommits => (RelyGuarantee.step_of_not_commits _ hcommits).1) events
  exact ⟨fun h => hiff.mp h.1, fun h => ⟨hiff.mpr h, hfailed⟩⟩

def staleRule : TimeRule where
  id := 9
  timeTriggerMinutes := 60
  conditions := []
  actions := [⟨.addNote, "Still open"⟩]

def hourOldTicket : SweepTable := (∅ : SweepTable).insert (.ticket 1) (.ticket (unmergedTicket 1))

def onePass : SweepCall := ⟨[staleRule], twoTickets⟩

def sweepStatement (tid newId : Nat) : Event SweepKey SweepRow SweepCall :=
  .exec tid (.stored _) (.generated newId)

-- The second pass begins once the first is through, and finds no candidate.
def passThenPass : List (Event SweepKey SweepRow SweepCall) :=
  [.begin 1 onePass, sweepStatement 1 0, sweepStatement 1 0, sweepStatement 1 0, .commit 1,
    .begin 2 onePass, sweepStatement 2 1, .commit 2]

theorem hourOldTicket_unwritten (key : SweepKey) (row : SweepRow) (h : hourOldTicket.lookup key = some row) :
    row.writtenBy = none := by
  rw [hourOldTicket, Table.lookup_insert_eq] at h
  split at h
  · obtain rfl := Option.some.inj h
    rfl
  · simp at h

theorem passThenPass_applies_once :
    AppliesOnce twoIds (Db.start (World.start hourOldTicket 3600000)) passThenPass :=
  (applies_once_iff twoIds hourOldTicket 3600000 hourOldTicket_unwritten _).mpr (by decide +kernel)

-- Both passes look for the record before either has written it. The second one's
-- INSERT waits for the first, then does nothing, and its note is committed all the
-- same.
def passWithinPass : List (Event SweepKey SweepRow SweepCall) :=
  [.begin 1 onePass, .begin 2 onePass, sweepStatement 1 0, sweepStatement 2 0, sweepStatement 1 0,
    sweepStatement 2 1, sweepStatement 1 0, .commit 1, sweepStatement 2 0, .commit 2]

def staleNote : SweepRow :=
  .message (some ⟨9, 1, 0⟩)
    { ticketId := 1, type := .note, authorType := .system, authorId := none, body := "Still open",
      cc := [], createdAt := 3600000 }

theorem passWithinPass_notes_twice :
    ¬ AppliesOnce twoIds (Db.start (World.start hourOldTicket 3600000)) passWithinPass := by
  intro h
  have hkeys := h.1.last.rows (.generated 0) (.generated 1) staleNote staleNote ⟨9, 1, 0⟩
    (by decide +kernel) (by decide +kernel) rfl rfl
  cases hkeys

end CloudOps.Ticketing.TimeAutomation
