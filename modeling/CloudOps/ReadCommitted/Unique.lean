import CloudOps.ReadCommitted.Solo
import Mathlib.Tactic.Common

namespace CloudOps.ReadCommitted

variable {K R ε α C : Type} [DecidableEq K]

-- No two rows of the table stand against each other in the unique index.
def RespectsUnique (conflict : R → R → Bool) (table : Table K R) : Prop :=
  ∀ id row other otherRow, table.lookup id = some row → table.lookup other = some otherRow →
    id ≠ other → conflict row otherRow = false

-- The index at work while transactions are in flight: it holds of what is
-- committed and of what each transaction sees, and no two transactions have
-- written rows that stand against each other, nor versions of one row.
structure UniqueHolds (conflict : R → R → Bool) (db : Db K R ε α C) : Prop where
  committed : RespectsUnique conflict db.world.committed
  views : ∀ tid txn, db.active.lookup tid = some txn →
    RespectsUnique conflict (txn.writes ∪ db.world.committed)
  apart : ∀ tid txn other otherTxn, db.active.lookup tid = some txn →
    db.active.lookup other = some otherTxn → tid ≠ other →
    ∀ id row otherId otherRow, txn.writes.lookup id = some row →
      otherTxn.writes.lookup otherId = some otherRow → id ≠ otherId ∧ conflict row otherRow = false

theorem RespectsUnique.place {conflict : R → R → Bool}
    (hsymm : ∀ row other, conflict row other = conflict other row) {writes base : Table K R}
    (h : RespectsUnique conflict (writes ∪ base)) {id : K} {row : R}
    (hclash : uniqueClash conflict id row (writes ∪ base) = false) :
    RespectsUnique conflict (writes.insert id row ∪ base) := by
  have hother : ∀ other otherRow, (writes ∪ base).lookup other = some otherRow → id ≠ other →
      conflict row otherRow = false := by
    intro other otherRow ho hne
    have hpair := List.any_eq_false.mp hclash (other, otherRow) (Table.mem_rows.mpr ho)
    simpa [hne.symm] using hpair
  have hlookup : ∀ other, (writes.insert id row ∪ base).lookup other =
      if other = id then some row else (writes ∪ base).lookup other := by
    intro other
    rw [Table.lookup_union, Table.lookup_union, Table.lookup_insert_eq]
    split <;> simp
  intro first firstRow second secondRow hf hs hne
  rw [hlookup] at hf hs
  split at hf <;> split at hs
  · rename_i hfirst hsecond
    exact absurd (hfirst.trans hsecond.symm) hne
  · rename_i hfirst _
    obtain rfl := Option.some.inj hf
    exact hother second secondRow hs (hfirst ▸ hne)
  · rename_i hsecond
    obtain rfl := Option.some.inj hs
    rw [hsymm]
    exact hother first firstRow hf (hsecond ▸ hne.symm)
  · exact h first firstRow second secondRow hf hs hne

-- Two transactions that are apart may publish one after the other.
theorem RespectsUnique.publish {conflict : R → R → Bool} {own other base : Table K R}
    (hsymm : ∀ row other, conflict row other = conflict other row)
    (hown : RespectsUnique conflict (own ∪ base)) (hother : RespectsUnique conflict (other ∪ base))
    (hapart : ∀ id row otherId otherRow, own.lookup id = some row →
      other.lookup otherId = some otherRow → conflict row otherRow = false) :
    RespectsUnique conflict (own ∪ (other ∪ base)) := by
  -- the row the transaction wrote itself against one it sees
  have hmixed : ∀ id row seen seenRow, own.lookup id = some row → own.lookup seen = none →
      (other ∪ base).lookup seen = some seenRow → id ≠ seen → conflict row seenRow = false := by
    intro id row seen seenRow hid hnone hseen hne
    rcases Table.lookup_union_cases hseen with hotherRow | ⟨-, hbase⟩
    · exact hapart id row seen seenRow hid hotherRow
    · have hseenBase : (own ∪ base).lookup seen = some seenRow := by
        rw [Table.lookup_union, hnone, Option.none_or, hbase]
      exact hown id row seen seenRow (Table.lookup_union_own hid base) hseenBase hne
  intro first firstRow second secondRow hf hs hne
  rcases Table.lookup_union_cases hf with hfirst | ⟨hfirstNone, hfirst⟩
  · rcases Table.lookup_union_cases hs with hsecond | ⟨hsecondNone, hsecond⟩
    · exact hown first firstRow second secondRow (Table.lookup_union_own hfirst base)
        (Table.lookup_union_own hsecond base) hne
    · exact hmixed first firstRow second secondRow hfirst hsecondNone hsecond hne
  · rcases Table.lookup_union_cases hs with hsecond | ⟨-, hsecond⟩
    · rw [hsymm]
      exact hmixed second secondRow first firstRow hsecond hfirstNone hfirst hne.symm
    · exact hother first firstRow second secondRow hfirst hsecond hne

namespace UniqueHolds

variable {conflict : R → R → Bool} {db : Db K R ε α C}

theorem start {world : World K R α C} (h : RespectsUnique conflict world.committed) :
    UniqueHolds conflict (Db.start world : Db K R ε α C) where
  committed := h
  views := by simp [Db.start]
  apart := by simp [Db.start]

theorem discard (h : UniqueHolds conflict db) (tid : Nat) : UniqueHolds conflict (db.discard tid) := by
  have hlookup : ∀ other txn, (db.discard tid).active.lookup other = some txn →
      db.active.lookup other = some txn := by
    intro other txn ho
    by_cases he : other = tid
    · subst he
      simp [Db.discard, AList.lookup_erase] at ho
    · simpa only [Db.discard, AList.lookup_erase_ne he] using ho
  exact {
    committed := h.committed
    views := fun other txn ho => h.views other txn (hlookup other txn ho)
    apart := fun first firstTxn second secondTxn hf hs =>
      h.apart first firstTxn second secondTxn (hlookup _ _ hf) (hlookup _ _ hs) }

theorem resume (h : UniqueHolds conflict db)
    (hsymm : ∀ row other, conflict row other = conflict other row) {tid : Nat} {txn : Txn K R ε α C}
    (hview : RespectsUnique conflict (txn.writes ∪ db.world.committed))
    (hapart : ∀ other otherTxn, db.active.lookup other = some otherTxn → tid ≠ other →
      ∀ id row otherId otherRow, txn.writes.lookup id = some row →
        otherTxn.writes.lookup otherId = some otherRow →
        id ≠ otherId ∧ conflict row otherRow = false) :
    UniqueHolds conflict (db.resume tid txn) where
  committed := h.committed
  views other otherTxn ho := by
    simp only [Db.resume, Table.lookup_insert_eq] at ho
    split at ho
    · obtain rfl := Option.some.inj ho
      exact hview
    · exact h.views other otherTxn ho
  apart first firstTxn second secondTxn hf hs hne id row otherId otherRow hid hother := by
    simp only [Db.resume, Table.lookup_insert_eq] at hf hs
    split at hf <;> split at hs
    · omega
    · rename_i he _
      obtain rfl := Option.some.inj hf
      exact hapart second secondTxn hs (he ▸ hne) id row otherId otherRow hid hother
    · rename_i he
      obtain rfl := Option.some.inj hs
      obtain ⟨hids, hrows⟩ :=
        hapart first firstTxn hf (he ▸ hne.symm) otherId otherRow id row hother hid
      exact ⟨hids.symm, (hsymm row otherRow).trans hrows⟩
    · exact h.apart first firstTxn second secondTxn hf hs hne id row otherId otherRow hid hother

-- A transaction that goes on without having written anything new.
theorem proceed (h : UniqueHolds conflict db)
    (hsymm : ∀ row other, conflict row other = conflict other row) {tid : Nat}
    {txn next : Txn K R ε α C} (ht : db.active.lookup tid = some txn) (hw : next.writes = txn.writes) :
    UniqueHolds conflict (db.resume tid next) := by
  refine h.resume hsymm (hw ▸ h.views tid txn ht) ?_
  intro other otherTxn ho hne
  rw [hw]
  exact h.apart tid txn other otherTxn ht ho hne

theorem resume_empty (h : UniqueHolds conflict db)
    (hsymm : ∀ row other, conflict row other = conflict other row) {tid : Nat} {txn : Txn K R ε α C}
    (hw : txn.writes = ∅) : UniqueHolds conflict (db.resume tid txn) := by
  refine h.resume hsymm ?_ ?_
  · rw [hw, AList.empty_union]
    exact h.committed
  · intro other otherTxn _ _ id row otherId otherRow hid
    simp [hw] at hid

-- What a statement that did not have to wait may write.
theorem apart_of_waits {tid : Nat} {id : K} {row : R} (h : db.waits conflict tid id row = false)
    {other : Nat} {otherTxn : Txn K R ε α C} (ho : db.active.lookup other = some otherTxn)
    (hne : tid ≠ other) {otherId : K} {otherRow : R}
    (hother : otherTxn.writes.lookup otherId = some otherRow) :
    id ≠ otherId ∧ conflict row otherRow = false := by
  simp only [Db.waits, List.any_eq_false] at h
  have hlocks := h (other, otherTxn) (Table.mem_rows.mpr ho)
  simp only [ne_eq, Ne.symm hne, not_false_eq_true, decide_true, Bool.true_and, Bool.or_eq_true,
    decide_eq_true_eq, not_or, Bool.not_eq_true, List.any_eq_false] at hlocks
  obtain ⟨hkey, hpending⟩ := hlocks
  refine ⟨?_, (hpending (otherId, otherRow) (Table.mem_rows.mpr hother)).1⟩
  rintro rfl
  exact hkey (Table.mem_of_lookup hother)

theorem place (h : UniqueHolds conflict db)
    (hsymm : ∀ row other, conflict row other = conflict other row) {tid : Nat} {txn : Txn K R ε α C}
    (ht : db.active.lookup tid = some txn) (id : K) (row : R) (onWritten : Prog K R ε α)
    {onClash : Db K R ε α C} (hclash : UniqueHolds conflict onClash) :
    UniqueHolds conflict (db.place conflict tid txn id row onWritten onClash) := by
  unfold Db.place
  split
  · exact h
  rename_i hw
  split
  · exact hclash
  rename_i hu
  refine h.resume hsymm ((h.views tid txn ht).place hsymm (Bool.eq_false_iff.mpr hu)) ?_
  intro other otherTxn ho hne used usedRow otherId otherRow hused hother
  rw [Table.lookup_insert_eq] at hused
  split at hused
  · rename_i he
    obtain rfl := Option.some.inj hused
    exact he ▸ apart_of_waits (Bool.eq_false_iff.mpr hw) ho hne hother
  · exact h.apart tid txn other otherTxn ht ho hne used usedRow otherId otherRow hused hother

variable {svc : Service K R ε α C}

theorem execute {db : Db K R ε α C} (h : UniqueHolds svc.conflict db)
    (hsymm : ∀ row other, svc.conflict row other = svc.conflict other row) {tid : Nat}
    {txn : Txn K R ε α C} (ht : db.active.lookup tid = some txn) (order : ScanOrder (K × R))
    (newId : K) : UniqueHolds svc.conflict (db.execute svc tid order newId txn) := by
  unfold Db.execute
  split
  case h_1 | h_2 => exact h
  case h_3 => exact h.proceed hsymm ht rfl
  case h_4 =>
    split
    · exact h.discard tid
    · exact h.proceed hsymm ht rfl
  case h_5 =>
    split
    · exact h.discard tid
    split
    · exact h.proceed hsymm ht rfl
    · exact h.place hsymm ht _ _ _ (h.discard tid)
  case h_6 =>
    split
    · exact h.discard tid
    split
    · exact h
    · exact h.place hsymm ht _ _ _ (h.resume_empty hsymm rfl)

theorem commit {db : Db K R ε α C} (h : UniqueHolds conflict db)
    (hsymm : ∀ row other, conflict row other = conflict other row) {tid : Nat} {txn : Txn K R ε α C}
    (ht : db.active.lookup tid = some txn) (value : α) :
    UniqueHolds conflict { (db.discard tid) with
      world := db.world.publish txn.call txn.begunOn txn.startedAt txn.writes value } where
  committed := h.views tid txn ht
  views other otherTxn ho := by
    by_cases he : other = tid
    · subst he
      simp [Db.discard, AList.lookup_erase] at ho
    · simp only [Db.discard, AList.lookup_erase_ne he] at ho
      refine RespectsUnique.publish hsymm (h.views other otherTxn ho) (h.views tid txn ht) ?_
      intro id row otherId otherRow hid hother
      exact (h.apart other otherTxn tid txn ho ht he id row otherId otherRow hid hother).2
  apart first firstTxn second secondTxn hf hs :=
    (h.discard tid).apart first firstTxn second secondTxn hf hs

theorem step {db : Db K R ε α C} (h : UniqueHolds svc.conflict db)
    (hsymm : ∀ row other, svc.conflict row other = svc.conflict other row) (event : Event K R C) :
    UniqueHolds svc.conflict (db.step svc event) := by
  cases event with
  | begin tid call =>
      simp only [Db.step]
      split
      · exact h
      · exact h.resume_empty hsymm rfl
  | exec tid order newId =>
      simp only [Db.step]
      split
      · exact h
      · rename_i ht
        exact h.execute hsymm ht order newId
  | commit tid =>
      simp only [Db.step]
      split
      · exact h
      · rename_i ht
        split
        · exact h.commit hsymm ht _
        · exact h
  | rollback tid => exact h.discard tid
  | tick elapsed => exact ⟨h.committed, h.views, h.apart⟩

end UniqueHolds

-- The index holds of every committed state, however the transactions interleave.
theorem always_respectsUnique (svc : Service K R ε α C)
    (hsymm : ∀ row other, svc.conflict row other = svc.conflict other row) {world : World K R α C}
    (hstart : RespectsUnique svc.conflict world.committed) (events : List (Event K R C)) :
    Runs.Always (Db.step svc) (fun db => RespectsUnique svc.conflict db.world.committed)
      (Db.start world) events :=
  (Runs.always_of_step (UniqueHolds svc.conflict) (UniqueHolds.start hstart)
    (fun _ event h => h.step hsymm event) events).mono fun _ h => h.committed

-- A call served on its own is one of those runs.
theorem RespectsUnique.serve {svc : Service K R ε α C} {world : World K R α C}
    (h : RespectsUnique svc.conflict world.committed)
    (hsymm : ∀ row other, svc.conflict row other = svc.conflict other row) (solo : Solo K R) (call : C) :
    RespectsUnique svc.conflict (world.serve svc solo call).committed := by
  obtain ⟨events, he⟩ := serve_is_run svc 0 solo world call
  have hlast := (always_respectsUnique svc hsymm h (.begin 0 call :: events)).last
  rw [he] at hlast
  exact hlast

end CloudOps.ReadCommitted
