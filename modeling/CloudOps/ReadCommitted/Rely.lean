import CloudOps.ReadCommitted.Program
import Mathlib.Tactic.Common

namespace CloudOps.ReadCommitted

variable {K R ε α β C : Type} [DecidableEq K]

-- What may have happened between two statements of a transaction: other
-- transactions moved the world as `rely` allows, kept its invariant, and left
-- alone the rows this one has locked.
def Interferes (rely : World K R α C → World K R α C → Prop) (inv : World K R α C → Prop)
    (writes : Table K R) (before after : World K R α C) : Prop :=
  rely before after ∧ inv after ∧
    ∀ id ∈ writes, after.committed.lookup id = before.committed.lookup id

namespace Prog

-- The weakest precondition under interference: from this world and these writes,
-- whatever the others do, `post` holds of what is committed, written and returned
-- at any moment at which the transaction may commit.
def wpAborted (rely : World K R β C → World K R β C → Prop) (inv : World K R β C → Prop)
    (post : World K R β C → Table K R → α → Prop) : Prog K R ε α → World K R β C → Prop
  | ret value, world => ∀ after, Interferes rely inv ∅ world after → post after ∅ value
  | clock next, world => ∀ after, Interferes rely inv ∅ world after →
      (next after.clock).wpAborted rely inv post after
  | throw _, _ | select .., _ | write .., _ | insert .., _ => True

def wp (rely : World K R β C → World K R β C → Prop) (inv : World K R β C → Prop)
    (post : World K R β C → Table K R → α → Prop) :
    Prog K R ε α → Table K R → World K R β C → Prop
  | ret value, writes, world => ∀ after, Interferes rely inv writes world after →
      post after writes value
  | throw _, _, _ => True
  | clock next, writes, world => ∀ after, Interferes rely inv writes world after →
      (next after.clock).wp rely inv post writes after
  | select matching next, writes, world => ∀ after, Interferes rely inv writes world after →
      ∀ rows, rows.Perm ((writes ∪ after.committed).rows.filter fun row => matching row.1 row.2) →
        (next rows).wp rely inv post writes after
  | write id change next, writes, world => ∀ after, Interferes rely inv writes world after →
      (change ((writes ∪ after.committed).lookup id) = none →
        (next none).wp rely inv post writes after) ∧
      ∀ row, change ((writes ∪ after.committed).lookup id) = some row →
        (next (some row)).wp rely inv post (writes.insert id row) after
  | insert row next, writes, world => ∀ after, Interferes rely inv writes world after →
      (∀ id, id ∉ writes → id ∉ after.committed →
        (next (.inserted id)).wp rely inv post (writes.insert id row) after) ∧
      (next .duplicateKey).wpAborted rely inv post after

end Prog

-- What is to be shown of a service so that an invariant holds however its
-- transactions interleave. `post` is what a transaction has established when it
-- commits; `condition` is what the commits of a run are assumed to meet.
structure RelyGuarantee (svc : Service K R ε α C) where
  rely : World K R α C → World K R α C → Prop
  inv : World K R α C → Prop
  post : C → Table K R → Nat → World K R α C → Table K R → α → Prop
  condition : World K R α C → C → Table K R → α → Prop
  refl : ∀ world, rely world world
  trans : ∀ a b c, rely a b → rely b c → rely a c
  tick : ∀ world elapsed, inv world → inv (world.tick elapsed) ∧ rely world (world.tick elapsed)
  body : ∀ call world, inv world → (svc.body call world.clock).wp rely inv
    (post call world.committed world.clock) ∅ world
  commit : ∀ call begunOn startedAt world writes value, inv world →
    post call begunOn startedAt world writes value → condition world call writes value →
    inv (world.publish call begunOn startedAt writes value) ∧
      rely world (world.publish call begunOn startedAt writes value)

-- The condition holds of an event that commits a transaction, in the world the
-- commit finds; it says nothing of other events.
def CommitMeets (condition : World K R α C → C → Table K R → α → Prop) (db : Db K R ε α C) :
    Event K R C → Prop
  | .commit tid => ∀ txn ∈ db.active.lookup tid, ∀ value ∈ txn.prog.value?,
      condition db.world txn.call txn.writes value
  | _ => True

instance CommitMeets.decidable (condition : World K R α C → C → Table K R → α → Prop)
    [∀ world call writes value, Decidable (condition world call writes value)]
    (db : Db K R ε α C) : DecidablePred (CommitMeets condition db)
  | .commit tid => inferInstanceAs (Decidable (∀ txn ∈ db.active.lookup tid,
      ∀ value ∈ txn.prog.value?, condition db.world txn.call txn.writes value))
  | .begin .. | .exec .. | .rollback _ | .tick _ => isTrue trivial

omit [DecidableEq K] in
theorem CommitMeets.trivial (db : Db K R ε α C) (event : Event K R C) :
    CommitMeets (fun _ _ _ _ => True) db event := by
  cases event with
  | commit tid => exact fun _ _ _ _ => True.intro
  | _ => exact True.intro

omit [DecidableEq K] in
theorem commitMeets_iff {condition : World K R α C → C → Table K R → α → Prop} {db : Db K R ε α C}
    {tid : Nat} {txn : Txn K R ε α C} {value : α} (ht : db.active.lookup tid = some txn)
    (hp : txn.prog = .ret value) :
    CommitMeets condition db (.commit tid) ↔ condition db.world txn.call txn.writes value := by
  simp [CommitMeets, ht, hp, Prog.value?]

variable {rely : World K R β C → World K R β C → Prop} {inv : World K R β C → Prop}

theorem Interferes.trans (htrans : ∀ a b c, rely a b → rely b c → rely a c)
    {writes : Table K R} {a b c : World K R β C} (hab : Interferes rely inv writes a b)
    (hbc : Interferes rely inv writes b c) : Interferes rely inv writes a c :=
  ⟨htrans _ _ _ hab.1 hbc.1, hbc.2.1, fun id hid => (hbc.2.2 id hid).trans (hab.2.2 id hid)⟩

namespace Prog

variable {post : World K R β C → Table K R → α → Prop}

-- Other transactions cannot spoil what a transaction has established.
theorem wpAborted.stable (htrans : ∀ a b c, rely a b → rely b c → rely a c)
    {prog : Prog K R ε α} {before after : World K R β C}
    (h : prog.wpAborted rely inv post before) (hi : Interferes rely inv ∅ before after) :
    prog.wpAborted rely inv post after := by
  cases prog with
  | ret value => exact fun later hl => h later (hi.trans htrans hl)
  | clock next => exact fun later hl => h later (hi.trans htrans hl)
  | throw _ | select _ _ | write _ _ _ | insert _ _ => trivial

theorem wp.stable (htrans : ∀ a b c, rely a b → rely b c → rely a c)
    {prog : Prog K R ε α} {writes : Table K R} {before after : World K R β C}
    (h : prog.wp rely inv post writes before) (hi : Interferes rely inv writes before after) :
    prog.wp rely inv post writes after := by
  cases prog with
  | throw _ => trivial
  | ret _ | clock _ | select _ _ | write _ _ _ | insert _ _ =>
      exact fun later hl => h later (hi.trans htrans hl)

theorem wpAborted.mono {other : World K R β C → Table K R → α → Prop} {prog : Prog K R ε α}
    {world : World K R β C} (h : prog.wpAborted rely inv post world)
    (himp : ∀ world value, inv world → post world ∅ value → other world ∅ value) :
    prog.wpAborted rely inv other world := by
  induction prog generalizing world with
  | ret value => exact fun after ha => himp _ _ ha.2.1 (h after ha)
  | clock next ih => exact fun after ha => ih _ (h after ha)
  | throw _ | select _ _ | write _ _ _ | insert _ _ => trivial

theorem wp.mono {other : World K R β C → Table K R → α → Prop} {prog : Prog K R ε α}
    {writes : Table K R} {world : World K R β C} (h : prog.wp rely inv post writes world)
    (himp : ∀ world writes value, inv world → post world writes value → other world writes value) :
    prog.wp rely inv other writes world := by
  induction prog generalizing writes world with
  | ret value => exact fun after ha => himp _ _ _ ha.2.1 (h after ha)
  | throw _ => trivial
  | clock next ih => exact fun after ha => ih _ (h after ha)
  | select matching next ih => exact fun after ha rows hp => ih _ (h after ha rows hp)
  | write id change next ih =>
      intro after ha
      obtain ⟨hnone, hsome⟩ := h after ha
      exact ⟨fun hc => ih _ (hnone hc), fun row hc => ih _ (hsome row hc)⟩
  | insert row next ih =>
      intro after ha
      obtain ⟨hfresh, hclash⟩ := h after ha
      exact ⟨fun id hw hc => ih _ (hfresh id hw hc), hclash.mono fun world value => himp world ∅ value⟩

-- A renamed result carries the postcondition of the result it renames.
theorem wpAborted.map {γ : Type} {rename : α → γ} {other : World K R β C → Table K R → γ → Prop}
    {prog : Prog K R ε α} {world : World K R β C}
    (h : prog.wpAborted rely inv (fun w writes value => other w writes (rename value)) world) :
    (prog.map rename).wpAborted rely inv other world := by
  induction prog generalizing world with
  | ret value => exact h
  | clock next ih => exact fun after ha => ih _ (h after ha)
  | throw _ | select _ _ | write _ _ _ | insert _ _ => trivial

theorem wp.map {γ : Type} {rename : α → γ} {other : World K R β C → Table K R → γ → Prop}
    {prog : Prog K R ε α} {writes : Table K R} {world : World K R β C}
    (h : prog.wp rely inv (fun w writes value => other w writes (rename value)) writes world) :
    (prog.map rename).wp rely inv other writes world := by
  induction prog generalizing writes world with
  | ret value => exact h
  | throw _ => trivial
  | clock next ih => exact fun after ha => ih _ (h after ha)
  | select matching next ih => exact fun after ha rows hp => ih _ (h after ha rows hp)
  | write id change next ih =>
      intro after ha
      obtain ⟨hnone, hsome⟩ := h after ha
      exact ⟨fun hc => ih _ (hnone hc), fun row hc => ih _ (hsome row hc)⟩
  | insert row next ih =>
      intro after ha
      obtain ⟨hfresh, hclash⟩ := h after ha
      exact ⟨fun id hw hc => ih _ (hfresh id hw hc), hclash.map⟩

-- A transaction after its failure does no more than the same one without writes.
theorem wp.aborted {prog : Prog K R ε α} {world : World K R β C}
    (h : prog.wp rely inv post ∅ world) : prog.wpAborted rely inv post world := by
  induction prog generalizing world with
  | ret value => exact h
  | clock next ih => exact fun after ha => ih _ (h after ha)
  | throw _ | select _ _ | write _ _ _ | insert _ _ => trivial

theorem wp.of_later (hrefl : ∀ world, rely world world) {prog : Prog K R ε α} {writes : Table K R}
    {world : World K R β C}
    (h : ∀ after, Interferes rely inv writes world after → prog.wp rely inv post writes after) :
    prog.wp rely inv post writes world := by
  cases prog with
  | throw _ => trivial
  | ret _ | clock _ | select _ _ | write _ _ _ | insert _ _ =>
      exact fun after ha => h after ha after ⟨hrefl after, ha.2.1, fun _ _ => rfl⟩

theorem wp_clock {next : Nat → Prog K R ε α} {writes : Table K R} {world : World K R β C}
    (h : ∀ after, Interferes rely inv writes world after →
      (next after.clock).wp rely inv post writes after) :
    (dateNow >>= next).wp rely inv post writes world := h

-- One part of a transaction after another.
theorem wp.bind {γ : Type} (hrefl : ∀ world, rely world world) {prog : Prog K R ε α}
    {next : α → Prog K R ε γ} {final : World K R β C → Table K R → γ → Prop} {writes : Table K R}
    {world : World K R β C}
    (h : prog.wp rely inv (fun world writes value => (next value).wp rely inv final writes world)
      writes world) : (prog >>= next).wp rely inv final writes world := by
  have habort : ∀ (prog : Prog K R ε α) (world : World K R β C),
      prog.wpAborted rely inv (fun world writes value => (next value).wp rely inv final writes world)
        world → (prog.bind next).wpAborted rely inv final world := by
    intro prog
    induction prog with
    | ret value =>
        exact fun world h => (wp.of_later hrefl fun after ha => h after ha).aborted
    | clock _ ih => exact fun world h after ha => ih _ after (h after ha)
    | throw _ | select _ _ | write _ _ _ | insert _ _ => exact fun _ _ => trivial
  induction prog generalizing writes world with
  | ret value => exact wp.of_later hrefl h
  | throw _ => trivial
  | clock _ ih => exact fun after ha => ih _ (h after ha)
  | select _ _ ih => exact fun after ha rows hp => ih _ (h after ha rows hp)
  | write _ _ _ ih =>
      intro after ha
      obtain ⟨hnone, hsome⟩ := h after ha
      exact ⟨fun hc => ih _ (hnone hc), fun row hc => ih _ (hsome row hc)⟩
  | insert _ _ ih =>
      intro after ha
      obtain ⟨hfresh, hclash⟩ := h after ha
      exact ⟨fun id hw hc => ih _ (hfresh id hw hc), habort _ after hclash⟩

theorem wp_ret {value : α} {writes : Table K R} {world : World K R β C}
    (h : ∀ world, inv world → post world writes value) :
    (ret value : Prog K R ε α).wp rely inv post writes world :=
  fun after ha => h after ha.2.1

-- The rule for a transaction whose only writing statement is its last one. The
-- row it wrote is locked, so at the commit the committed version is still the one
-- it was made from.
theorem wp_write_ret {id : K} {change : Option R → Option R} (value : Option R → α)
    {world : World K R β C} (hnone : ∀ world, inv world → post world ∅ (value none))
    (hsome : ∀ world row, inv world → change (world.committed.lookup id) = some row →
      post world ((∅ : Table K R).insert id row) (value (some row))) :
    (write id change fun result => ret (value result) : Prog K R ε α).wp rely inv post ∅ world := by
  intro after _
  rw [AList.empty_union]
  refine ⟨fun _ later hl => hnone later hl.2.1, fun row hc later hl => ?_⟩
  refine hsome later row hl.2.1 ?_
  rw [hl.2.2 id ((AList.mem_insert _).mpr (.inl rfl))]
  exact hc

theorem wp_insert_ret {row : R} {next : InsertResult K → Prog K R ε α} (value : K → α) (clash : α)
    {world : World K R β C} (hnext : ∀ id, next (.inserted id) = ret (value id))
    (hnextClash : next .duplicateKey = ret clash)
    (hfresh : ∀ world id, inv world → world.committed.lookup id = none →
      post world ((∅ : Table K R).insert id row) (value id))
    (hclash : ∀ world, inv world → post world ∅ clash) :
    (insert row next).wp rely inv post ∅ world := by
  intro after _
  rw [hnextClash]
  refine ⟨fun id _ hn => ?_, fun later hl => hclash later hl.2.1⟩
  rw [hnext]
  intro later hl
  refine hfresh later id hl.2.1 ?_
  rw [hl.2.2 id ((AList.mem_insert _).mpr (.inl rfl))]
  exact AList.lookup_eq_none.mpr hn

end Prog

namespace RelyGuarantee

variable {svc : Service K R ε α C} (G : RelyGuarantee svc)

def Running (world : World K R α C) (txn : Txn K R ε α C) : Prop :=
  let post := G.post txn.call txn.begunOn txn.startedAt
  if txn.aborted then txn.writes = ∅ ∧ txn.prog.wpAborted G.rely G.inv post world
  else txn.prog.wp G.rely G.inv post txn.writes world

-- The invariant of the interleaving itself: the world's invariant, one lock a row,
-- and every transaction in flight on its way to its `post`.
structure Holds (db : Db K R ε α C) : Prop where
  inv : G.inv db.world
  running : ∀ tid txn, db.active.lookup tid = some txn → G.Running db.world txn
  locks : ∀ tid txn other otherTxn, db.active.lookup tid = some txn →
    db.active.lookup other = some otherTxn → tid ≠ other →
    ∀ id ∈ txn.writes, id ∉ otherTxn.writes

variable {G}

theorem Running.stable {before after : World K R α C} {txn : Txn K R ε α C}
    (h : G.Running before txn) (hi : Interferes G.rely G.inv txn.writes before after) :
    G.Running after txn := by
  unfold Running at h ⊢
  cases ha : txn.aborted with
  | true =>
      simp only [ha, ite_true] at h ⊢
      exact ⟨h.1, h.2.stable G.trans (h.1 ▸ hi)⟩
  | false =>
      simp only [ha] at h ⊢
      exact h.stable G.trans hi

theorem Holds.start {world : World K R α C} (hinv : G.inv world) : G.Holds (Db.start world) where
  inv := hinv
  running := by simp [Db.start]
  locks := by simp [Db.start]

theorem Holds.resume {db : Db K R ε α C} (h : G.Holds db) {tid : Nat} {txn : Txn K R ε α C}
    (hrun : G.Running db.world txn)
    (hlocks : ∀ other otherTxn, db.active.lookup other = some otherTxn → tid ≠ other →
      ∀ id ∈ txn.writes, id ∉ otherTxn.writes) : G.Holds (db.resume tid txn) where
  inv := h.inv
  running other otherTxn ho := by
    simp only [Db.resume, Table.lookup_insert_eq] at ho ⊢
    split at ho
    · obtain rfl := Option.some.inj ho
      exact hrun
    · exact h.running other otherTxn ho
  locks first firstTxn second secondTxn hf hs hne id hid := by
    simp only [Db.resume, Table.lookup_insert_eq] at hf hs
    split at hf <;> split at hs
    · omega
    · rename_i he _
      obtain rfl := Option.some.inj hf
      exact hlocks second secondTxn hs (he ▸ hne) id hid
    · rename_i he
      obtain rfl := Option.some.inj hs
      intro hmem
      exact hlocks first firstTxn hf (he ▸ hne.symm) id hmem hid
    · exact h.locks first firstTxn second secondTxn hf hs hne id hid

omit [DecidableEq K] in
theorem lookup_discard {db : Db K R ε α C} {tid other : Nat} {txn : Txn K R ε α C}
    (h : (db.discard tid).active.lookup other = some txn) :
    other ≠ tid ∧ db.active.lookup other = some txn := by
  by_cases he : other = tid
  · subst he
    simp [Db.discard, AList.lookup_erase] at h
  · exact ⟨he, by simpa only [Db.discard, AList.lookup_erase_ne he] using h⟩

theorem Holds.discard {db : Db K R ε α C} (h : G.Holds db) (tid : Nat) :
    G.Holds (db.discard tid) where
  inv := h.inv
  running other txn ho := h.running other txn (lookup_discard ho).2
  locks first firstTxn second secondTxn hf hs :=
    h.locks first firstTxn second secondTxn (lookup_discard hf).2 (lookup_discard hs).2

-- A change of the world that keeps the rows every remaining transaction has locked.
theorem Holds.move {db : Db K R ε α C} (h : G.Holds db) {world : World K R α C}
    (hinv : G.inv world) (hrely : G.rely db.world world)
    (hlocked : ∀ tid txn, db.active.lookup tid = some txn → ∀ id ∈ txn.writes,
      world.committed.lookup id = db.world.committed.lookup id) :
    G.Holds { db with world := world } where
  inv := hinv
  running tid txn ht := (h.running tid txn ht).stable ⟨hrely, hinv, hlocked tid txn ht⟩
  locks := h.locks

theorem here {world : World K R α C} (hinv : G.inv world) (writes : Table K R) :
    Interferes G.rely G.inv writes world world :=
  ⟨G.refl world, hinv, fun _ _ => rfl⟩

theorem not_mem_of_waits {conflict : R → R → Bool} {db : Db K R ε α C} {tid : Nat} {id : K}
    {row : R} (h : db.waits conflict tid id row = false) {other : Nat} {txn : Txn K R ε α C}
    (ho : db.active.lookup other = some txn) (hne : tid ≠ other) : id ∉ txn.writes := by
  simp only [Db.waits, List.any_eq_false] at h
  have hn := h (other, txn) (Table.mem_rows.mpr ho)
  simp only [ne_eq, Ne.symm hne, not_false_eq_true, decide_true, Bool.true_and,
    Bool.or_eq_true, decide_eq_true_eq, not_or] at hn
  exact hn.1

theorem Holds.place {db : Db K R ε α C} (h : G.Holds db) {tid : Nat} {txn : Txn K R ε α C}
    (ht : db.active.lookup tid = some txn) (ha : txn.aborted = false) {id : K} {row : R}
    {onWritten : Prog K R ε α} {onClash : Db K R ε α C}
    (hwritten : onWritten.wp G.rely G.inv (G.post txn.call txn.begunOn txn.startedAt)
      (txn.writes.insert id row) db.world) (hclash : G.Holds onClash) :
    G.Holds (db.place svc.conflict tid txn id row onWritten onClash) := by
  unfold Db.place
  split
  · exact h
  rename_i hw
  split
  · exact hclash
  · refine h.resume (by simpa [Running, ha] using hwritten) ?_
    intro other otherTxn ho hne used hused
    rcases AList.mem_insert _ |>.mp hused with rfl | hu
    · exact not_mem_of_waits (Bool.eq_false_iff.mpr hw) ho hne
    · exact h.locks tid txn other otherTxn ht ho hne used hu

theorem place_world (conflict : R → R → Bool) (db : Db K R ε α C) (tid : Nat)
    (txn : Txn K R ε α C) (id : K) (row : R) (onWritten : Prog K R ε α) (onClash : Db K R ε α C)
    (hclash : onClash.world = db.world) :
    (db.place conflict tid txn id row onWritten onClash).world = db.world := by
  unfold Db.place
  split
  · rfl
  · split
    · exact hclash
    · rfl

theorem execute_world (db : Db K R ε α C) (tid : Nat) (order : ScanOrder (K × R)) (newId : K)
    (txn : Txn K R ε α C) : (db.execute svc tid order newId txn).world = db.world := by
  unfold Db.execute
  split
  · rfl
  · rfl
  · rfl
  · split <;> rfl
  · split
    · rfl
    · split
      · rfl
      · exact place_world _ _ _ _ _ _ _ _ rfl
  · split
    · rfl
    · split
      · rfl
      · exact place_world _ _ _ _ _ _ _ _ rfl

theorem Holds.execute {db : Db K R ε α C} (h : G.Holds db) {tid : Nat} {txn : Txn K R ε α C}
    (ht : db.active.lookup tid = some txn) (order : ScanOrder (K × R)) (newId : K) :
    G.Holds (db.execute svc tid order newId txn) := by
  have hrun := h.running tid txn ht
  have hlocks := h.locks tid txn
  unfold Db.execute
  split
  case h_1 => exact h
  case h_2 => exact h
  case h_3 next hp =>
    refine h.resume ?_ fun other otherTxn => hlocks other otherTxn ht
    unfold Running at hrun ⊢
    cases ha : txn.aborted with
    | true =>
        simp only [ha, hp, ite_true] at hrun ⊢
        exact ⟨hrun.1, hrun.2 _ (here h.inv _)⟩
    | false =>
        simp only [ha, hp, Bool.false_eq_true, ite_false] at hrun ⊢
        exact hrun _ (here h.inv _)
  case h_4 matching next hp =>
    split
    · exact h.discard tid
    · rename_i ha
      refine h.resume ?_ fun other otherTxn => hlocks other otherTxn ht
      simp only [Running, ha, hp, Bool.false_eq_true, ite_false] at hrun ⊢
      exact hrun _ (here h.inv _) _ (order.perm _)
  case h_5 id change next hp =>
    split
    · exact h.discard tid
    · rename_i ha
      simp only [Running, ha, hp, Bool.false_eq_true, ite_false] at hrun
      obtain ⟨hnone, hsome⟩ := hrun _ (here h.inv _)
      split
      · rename_i hc
        refine h.resume ?_ fun other otherTxn => hlocks other otherTxn ht
        simpa only [Running, ha, Bool.false_eq_true, ite_false] using hnone hc
      · rename_i row hc
        exact h.place ht (Bool.eq_false_iff.mpr ha) (hsome row hc) (h.discard tid)
  case h_6 row next hp =>
    split
    · exact h.discard tid
    · rename_i ha
      split
      · exact h
      · rename_i hnew
        simp only [Running, ha, hp, Bool.false_eq_true, ite_false] at hrun
        obtain ⟨hfresh, hclash⟩ := hrun _ (here h.inv _)
        simp only [AList.mem_union, not_or] at hnew
        refine h.place ht (Bool.eq_false_iff.mpr ha) (hfresh newId hnew.1 hnew.2) ?_
        exact h.resume (by simpa [Running] using hclash) (by simp)

-- A transaction that has run all its statements has established its `post`.
theorem Holds.finished {db : Db K R ε α C} (h : G.Holds db) {tid : Nat} {txn : Txn K R ε α C}
    {value : α} (ht : db.active.lookup tid = some txn) (hp : txn.prog = .ret value) :
    G.post txn.call txn.begunOn txn.startedAt db.world txn.writes value := by
  have hrun := h.running tid txn ht
  unfold Running at hrun
  cases ha : txn.aborted with
  | true =>
      simp only [ha, hp, ite_true] at hrun
      rw [hrun.1]
      exact hrun.2 _ (here h.inv _)
  | false =>
      simp only [ha, hp, Bool.false_eq_true, ite_false] at hrun
      exact hrun _ (here h.inv _)

theorem Holds.commit {db : Db K R ε α C} (h : G.Holds db) {tid : Nat} {txn : Txn K R ε α C}
    {value : α} (ht : db.active.lookup tid = some txn) (hp : txn.prog = .ret value)
    (hcondition : G.condition db.world txn.call txn.writes value) :
    let world := db.world.publish txn.call txn.begunOn txn.startedAt txn.writes value
    G.Holds { (db.discard tid) with world := world } ∧ G.rely db.world world := by
  obtain ⟨hinv, hrely⟩ := G.commit _ _ _ _ _ _ h.inv (h.finished ht hp) hcondition
  refine ⟨(h.discard tid).move hinv hrely ?_, hrely⟩
  intro other otherTxn ho id hid
  obtain ⟨hne, ho⟩ := lookup_discard ho
  exact Table.lookup_union_of_notMem (h.locks other otherTxn tid txn ho ht hne id hid)

theorem Holds.step {db : Db K R ε α C} {event : Event K R C} (h : G.Holds db)
    (hcondition : CommitMeets G.condition db event) :
    G.Holds (db.step svc event) ∧ G.rely db.world (db.step svc event).world := by
  cases event with
  | begin tid call =>
      simp only [Db.step]
      split
      · exact ⟨h, G.refl _⟩
      · refine ⟨h.resume ?_ (by simp), G.refl _⟩
        simpa [Running] using G.body call db.world h.inv
  | exec tid order newId =>
      simp only [Db.step]
      split
      · exact ⟨h, G.refl _⟩
      · rename_i ht
        refine ⟨h.execute ht order newId, ?_⟩
        rw [execute_world]
        exact G.refl _
  | commit tid =>
      simp only [Db.step]
      split
      · exact ⟨h, G.refl _⟩
      · rename_i ht
        split
        · rename_i hp
          exact h.commit ht hp ((commitMeets_iff ht hp).mp hcondition)
        · exact ⟨h, G.refl _⟩
  | rollback tid => exact ⟨h.discard tid, G.refl _⟩
  | tick elapsed =>
      obtain ⟨hinv, hrely⟩ := G.tick db.world elapsed h.inv
      exact ⟨h.move hinv hrely fun _ _ _ _ _ => rfl, hrely⟩

theorem step_commit {db : Db K R ε α C} {tid : Nat} {txn : Txn K R ε α C} {value : α}
    (ht : db.active.lookup tid = some txn) (hp : txn.prog = .ret value) :
    (db.step svc (.commit tid)).world =
      db.world.publish txn.call txn.begunOn txn.startedAt txn.writes value := by
  simp only [Db.step, ht, hp]

variable (svc) in
-- What calls have handed back is only ever added to.
theorem step_returned (db : Db K R ε α C) (event : Event K R C) :
    ∃ newer, (db.step svc event).world.returned = db.world.returned ++ newer := by
  have hsame : ∃ newer, db.world.returned = db.world.returned ++ newer :=
    ⟨[], (List.append_nil _).symm⟩
  cases event with
  | begin tid call =>
      simp only [Db.step]
      split <;> exact hsame
  | exec tid order newId =>
      simp only [Db.step]
      split
      · exact hsame
      · rw [execute_world]
        exact hsame
  | commit tid =>
      simp only [Db.step]
      split
      · exact hsame
      · split
        · exact ⟨_, rfl⟩
        · exact hsame
  | rollback tid => exact hsame
  | tick elapsed => exact hsame

-- Where a commit that does not meet the condition breaks the property, the
-- condition is what a step needs.
theorem commitMeets_of_step (property : World K R α C → Prop) {db : Db K R ε α C} (h : G.Holds db)
    (hneed : ∀ call begunOn startedAt writes value,
      G.post call begunOn startedAt db.world writes value →
      property (db.world.publish call begunOn startedAt writes value) →
      G.condition db.world call writes value)
    (event : Event K R C) (hproperty : property (db.step svc event).world) :
    CommitMeets G.condition db event := by
  cases event with
  | commit tid =>
      intro txn ht value hv
      have hp := Prog.value?_eq_some.mp hv
      rw [step_commit ht hp] at hproperty
      exact hneed _ _ _ _ _ (h.finished ht hp) hproperty
  | _ => trivial

-- The event commits a transaction that has run all its statements.
def Commits (db : Db K R ε α C) (event : Event K R C) : Prop :=
  ∃ tid txn value, event = .commit tid ∧ db.active.lookup tid = some txn ∧ txn.prog = .ret value

variable (svc) in
-- Nothing else changes what is committed, nor has a commit's condition to meet.
theorem step_of_not_commits {db : Db K R ε α C} {event : Event K R C} (h : ¬ Commits db event) :
    (db.step svc event).world.committed = db.world.committed ∧
      ∀ condition, CommitMeets condition db event := by
  cases event with
  | begin tid call =>
      refine ⟨?_, fun _ => trivial⟩
      simp only [Db.step]
      split <;> rfl
  | exec tid order newId =>
      refine ⟨?_, fun _ => trivial⟩
      simp only [Db.step]
      split
      · rfl
      · rw [execute_world]
  | commit tid =>
      have hnone : ∀ txn value, db.active.lookup tid = some txn → txn.prog ≠ .ret value :=
        fun txn value ht hp => h ⟨tid, txn, value, rfl, ht, hp⟩
      constructor
      · simp only [Db.step]
        split
        · rfl
        · rename_i txn ht
          split
          · rename_i value hp
            exact absurd hp (hnone txn value ht)
          · rfl
      · exact fun condition txn ht value hv => absurd (Prog.value?_eq_some.mp hv) (hnone txn value ht)
  | rollback tid => exact ⟨rfl, fun _ => trivial⟩
  | tick elapsed => exact ⟨rfl, fun _ => trivial⟩

-- Only a commit changes what is committed, so a relation between committed tables
-- holds of a step exactly if it holds of the commit the step makes.
theorem Holds.step_iff {db : Db K R ε α C} (h : G.Holds db)
    {rel : World K R α C → World K R α C → Prop}
    {condition : World K R α C → C → Table K R → α → Prop}
    (hsame : ∀ before after : World K R α C, after.committed = before.committed → rel before after)
    (hcommit : ∀ call begunOn startedAt world writes value, G.inv world →
      G.post call begunOn startedAt world writes value →
      (rel world (world.publish call begunOn startedAt writes value) ↔ condition world call writes value))
    (event : Event K R C) :
    rel db.world (db.step svc event).world ↔ CommitMeets condition db event := by
  by_cases hcommits : Commits db event
  · obtain ⟨tid, txn, value, rfl, ht, hp⟩ := hcommits
    rw [commitMeets_iff ht hp, step_commit ht hp]
    exact hcommit _ _ _ _ _ _ h.inv (h.finished ht hp)
  · obtain ⟨hkept, hmeets⟩ := step_of_not_commits svc hcommits
    exact iff_of_true (hsame _ _ hkept) (hmeets condition)

-- In every run whose commits meet the condition, the invariant holds in every
-- state, and any earlier state is related to any later one.
theorem always_holds (G : RelyGuarantee svc) {world : World K R α C} (hinv : G.inv world)
    {events : List (Event K R C)}
    (hcondition : Runs.AllSteps (Db.step svc) (CommitMeets G.condition) (Db.start world) events) :
    Runs.Always (Db.step svc) G.Holds (Db.start world) events :=
  Runs.invariant (.start hinv) (fun _ _ h hc => (h.step hc).1) hcondition

theorem always_inv (G : RelyGuarantee svc) {world : World K R α C} (hinv : G.inv world)
    {events : List (Event K R C)}
    (hcondition : Runs.AllSteps (Db.step svc) (CommitMeets G.condition) (Db.start world) events) :
    Runs.Always (Db.step svc) (fun db => G.inv db.world) (Db.start world) events :=
  (G.always_holds hinv hcondition).mono fun _ h => h.inv

theorem throughout_rely (G : RelyGuarantee svc) {world : World K R α C} (hinv : G.inv world)
    {events : List (Event K R C)}
    (hcondition : Runs.AllSteps (Db.step svc) (CommitMeets G.condition) (Db.start world) events) :
    Runs.Throughout (Db.step svc) (fun earlier later => G.rely earlier.world later.world)
      (Db.start world) events :=
  Runs.throughout (fun earlier later => G.rely earlier.world later.world) (fun _ => G.refl _)
    (fun _ _ _ => G.trans _ _ _) (Holds.start hinv) (fun _ _ h hc => Holds.step h hc) hcondition

end RelyGuarantee

end CloudOps.ReadCommitted
