import CloudOps.ReadCommitted.Columns
import CloudOps.ReadCommitted.Unique

namespace CloudOps.ReadCommitted

variable {K R ε α C : Type} [DecidableEq K]

-- A transaction at its start.
def Service.begun (svc : Service K R ε α C) (world : World K R α C) (call : C) : Txn K R ε α C where
  call := call
  begunOn := world.committed
  startedAt := world.clock
  writes := ∅
  aborted := false
  prog := svc.body call world.clock

-- What its next statement makes of a transaction that neither waits nor ends.
def Txn.Becomes (conflict : R → R → Bool) (world : World K R α C) (order : ScanOrder (K × R)) (newId : K)
    (txn after : Txn K R ε α C) : Prop :=
  match txn.prog with
  | .ret _ | .throw _ => False
  | .clock next => after = { txn with prog := next world.clock }
  | .select matching next => after = { txn with prog := next (order.apply
      ((txn.writes ∪ world.committed).rows.filter fun row => matching row.1 row.2)) }
  | .write id change next =>
      match change ((txn.writes ∪ world.committed).lookup id) with
      | none => after = { txn with prog := next none }
      | some row => after = { txn with writes := txn.writes.insert id row, prog := next (some row) }
  | .insert row next =>
      newId ∉ txn.writes ∪ world.committed ∧
        if uniqueClash conflict newId row (txn.writes ∪ world.committed) then
          after = { txn with writes := ∅, aborted := true, prog := next .duplicateKey }
        else after = { txn with writes := txn.writes.insert newId row, prog := next (.inserted newId) }

-- What holds of each transaction in flight and of what is committed.
def InFlight (holds : World K R α C → Txn K R ε α C → Prop) (db : Db K R ε α C) : Prop :=
  ∀ tid txn, db.active.lookup tid = some txn → holds db.world txn

variable {svc : Service K R ε α C} {db : Db K R ε α C}

theorem Db.place_cases (conflict : R → R → Bool) (db : Db K R ε α C) (tid : Nat) (txn : Txn K R ε α C) (id : K)
    (row : R) (onWritten : Prog K R ε α) (onClash : Db K R ε α C) :
    db.place conflict tid txn id row onWritten onClash = db ∨
      uniqueClash conflict id row (txn.writes ∪ db.world.committed) = true ∧
        db.place conflict tid txn id row onWritten onClash = onClash ∨
      uniqueClash conflict id row (txn.writes ∪ db.world.committed) = false ∧
        db.place conflict tid txn id row onWritten onClash =
          db.resume tid { txn with writes := txn.writes.insert id row, prog := onWritten } := by
  unfold Db.place
  split
  · exact .inl rfl
  · split
    · rename_i hclash
      exact .inr (.inl ⟨hclash, rfl⟩)
    · rename_i hclear
      exact .inr (.inr ⟨Bool.eq_false_iff.mpr hclear, rfl⟩)

-- A statement waits, or ends its transaction, or takes it one step further.
theorem Db.execute_cases (svc : Service K R ε α C) (db : Db K R ε α C) (tid : Nat) (order : ScanOrder (K × R))
    (newId : K) (txn : Txn K R ε α C) :
    db.execute svc tid order newId txn = db ∨ db.execute svc tid order newId txn = db.discard tid ∨
      ∃ after, txn.Becomes svc.conflict db.world order newId after ∧
        db.execute svc tid order newId txn = db.resume tid after := by
  cases hp : txn.prog with
  | ret value | throw error => simp [Db.execute, hp]
  | clock next =>
      simp only [Db.execute, Txn.Becomes, hp]
      exact .inr (.inr ⟨_, rfl, rfl⟩)
  | select matching next =>
      simp only [Db.execute, Txn.Becomes, hp]
      split
      · exact .inr (.inl rfl)
      · exact .inr (.inr ⟨_, rfl, rfl⟩)
  | write id change next =>
      simp only [Db.execute, Txn.Becomes, hp]
      split
      · exact .inr (.inl rfl)
      · cases change ((txn.writes ∪ db.world.committed).lookup id) with
        | none => exact .inr (.inr ⟨_, rfl, rfl⟩)
        | some row =>
            rcases db.place_cases svc.conflict tid txn id row (next (some row)) (db.discard tid) with
              hwaits | ⟨-, hfails⟩ | ⟨-, hgoes⟩
            · exact .inl hwaits
            · exact .inr (.inl hfails)
            · exact .inr (.inr ⟨_, rfl, hgoes⟩)
  | insert row next =>
      simp only [Db.execute, Txn.Becomes, hp]
      split
      · exact .inr (.inl rfl)
      · split
        · exact .inl rfl
        · rename_i hnew
          rcases db.place_cases svc.conflict tid txn newId row (next (.inserted newId))
              (db.abort tid txn (next .duplicateKey)) with hwaits | ⟨hclash, haborts⟩ | ⟨hclear, hgoes⟩
          · exact .inl hwaits
          · exact .inr (.inr ⟨_, ⟨hnew, by rw [if_pos hclash]⟩, haborts⟩)
          · exact .inr (.inr ⟨_, ⟨hnew, by rw [if_neg (by simp [hclear])]⟩, hgoes⟩)

namespace InFlight

variable {holds : World K R α C → Txn K R ε α C → Prop}

omit [DecidableEq K] in
theorem start (world : World K R α C) : InFlight holds (Db.start world : Db K R ε α C) := by
  intro tid txn ht
  simp [Db.start] at ht

omit [DecidableEq K] in
theorem resume (h : InFlight holds db) {txn : Txn K R ε α C} (htxn : holds db.world txn) (tid : Nat) :
    InFlight holds (db.resume tid txn) := by
  intro other found hfound
  simp only [Db.resume, Table.lookup_insert_eq] at hfound
  split at hfound
  · exact Option.some.inj hfound ▸ htxn
  · exact h other found hfound

omit [DecidableEq K] in
theorem discard (h : InFlight holds db) (tid : Nat) : InFlight holds (db.discard tid) :=
  fun other txn ht => h other txn (RelyGuarantee.lookup_discard ht).2

-- It holds after a step if it holds of a transaction that begins, if the statement of a
-- transaction keeps it of that one, and a commit of the others.
theorem step (h : InFlight holds db) (event : Event K R C)
    (hbegin : ∀ tid call, event = .begin tid call → holds db.world (svc.begun db.world call))
    (hexec : ∀ tid order newId txn after, event = .exec tid order newId → db.active.lookup tid = some txn →
      txn.Becomes svc.conflict db.world order newId after → holds db.world after)
    (hcommit : ∀ tid txn value other otherTxn, event = .commit tid → db.active.lookup tid = some txn →
      txn.prog = .ret value → other ≠ tid → db.active.lookup other = some otherTxn →
      holds (db.world.publish txn.call txn.begunOn txn.startedAt txn.writes value) otherTxn)
    (htick : ∀ elapsed txn, holds db.world txn → holds (db.world.tick elapsed) txn) :
    InFlight holds (db.step svc event) := by
  cases event with
  | begin tid call =>
      simp only [Db.step]
      split
      · exact h
      · exact h.resume (hbegin tid call rfl) tid
  | exec tid order newId =>
      simp only [Db.step]
      cases ht : db.active.lookup tid with
      | none => exact h
      | some txn =>
          dsimp only
          rcases db.execute_cases svc tid order newId txn with hwaits | hends | ⟨after, hbecomes, hgoes⟩
          · rw [hwaits]
            exact h
          · rw [hends]
            exact h.discard tid
          · rw [hgoes]
            exact h.resume (hexec tid order newId txn after rfl ht hbecomes) tid
  | commit tid =>
      simp only [Db.step]
      cases ht : db.active.lookup tid with
      | none => exact h
      | some txn =>
          dsimp only
          split
          · rename_i value hp
            intro other otherTxn ho
            obtain ⟨hne, hother⟩ := RelyGuarantee.lookup_discard ho
            exact hcommit tid txn value other otherTxn rfl ht hp hne hother
          · exact h
  | rollback tid => exact h.discard tid
  | tick elapsed => exact fun tid txn ht => htick elapsed txn (h tid txn ht)

end InFlight

-- It stays the transaction of its call.
theorem Txn.Becomes.same {conflict : R → R → Bool} {world : World K R α C} {order : ScanOrder (K × R)} {newId : K}
    {txn after : Txn K R ε α C} (h : txn.Becomes conflict world order newId after) :
    after.call = txn.call ∧ after.startedAt = txn.startedAt := by
  unfold Txn.Becomes at h
  cases hp : txn.prog with
  | ret value | throw error => simp only [hp] at h
  | clock next | select matching next =>
      simp only [hp] at h
      rw [h]
      exact ⟨rfl, rfl⟩
  | write id change next =>
      simp only [hp] at h
      split at h <;> rw [h] <;> exact ⟨rfl, rfl⟩
  | insert row next =>
      simp only [hp] at h
      obtain ⟨-, h⟩ := h
      split at h <;> rw [h] <;> exact ⟨rfl, rfl⟩

-- What a transaction of such steps becomes is one of such steps, with one more of them
-- written, or with nothing written any more.
theorem Txn.Becomes.changes {conflict : R → R → Bool} {world : World K R α C} {order : ScanOrder (K × R)}
    {newId : K}
    {txn after : Txn K R ε α C} (h : txn.Becomes conflict world order newId after)
    {step : K → Option R → R → Prop} (hchanges : txn.prog.Changes step) :
    after.prog.Changes step ∧ (after.writes = txn.writes ∨ after.writes = ∅ ∨
      ∃ id row, step id ((txn.writes ∪ world.committed).lookup id) row ∧
        after.writes = txn.writes.insert id row) := by
  unfold Txn.Becomes at h
  cases hp : txn.prog with
  | ret value | throw error => simp only [hp] at h
  | clock next =>
      rw [hp] at h hchanges
      subst h
      exact ⟨hchanges _, .inl rfl⟩
  | select matching next =>
      rw [hp] at h hchanges
      subst h
      exact ⟨hchanges _, .inl rfl⟩
  | write id change next =>
      simp only [hp] at h hchanges
      split at h
      · subst h
        exact ⟨hchanges.2 _, .inl rfl⟩
      · rename_i row hrow
        subst h
        exact ⟨hchanges.2 _, .inr (.inr ⟨id, row, hchanges.1 _ row hrow, rfl⟩)⟩
  | insert row next =>
      simp only [hp] at h hchanges
      obtain ⟨hnew, h⟩ := h
      split at h
      · subst h
        exact ⟨hchanges.2 _, .inr (.inl rfl)⟩
      · subst h
        rw [← AList.lookup_eq_none] at hnew
        exact ⟨hchanges.2 _, .inr (.inr ⟨newId, row, hnew ▸ hchanges.1 newId, rfl⟩)⟩

end CloudOps.ReadCommitted
