import CloudOps.ReadCommitted.Rely

namespace CloudOps.ReadCommitted

variable {K R ε α β C : Type} [DecidableEq K]

namespace Prog

variable {rely : World K R β C → World K R β C → Prop} {inv : World K R β C → Prop}
  {post : World K R β C → Table K R → α → Prop} {world : World K R β C}

theorem wpAborted.afterFailure {prog : Prog K R ε α} (h : prog.wpAborted rely inv post world)
    (hrefl : rely world world) (hinv : inv world) {value : α} {final : Table K R}
    (ho : prog.afterFailure world.clock = .returned value final) : post world final value := by
  induction prog with
  | ret result =>
      obtain ⟨rfl, rfl⟩ := Outcome.returned.inj ho
      exact h world ⟨hrefl, hinv, fun _ _ => rfl⟩
  | clock next ih => exact ih _ (h world ⟨hrefl, hinv, fun _ _ => rfl⟩) ho
  | throw _ | select _ _ | write _ _ _ | insert _ _ => cases ho

-- What holds of a transaction under interference holds of it when it runs alone.
theorem wp.alone {prog : Prog K R ε α} {writes : Table K R} {conflict : R → R → Bool}
    {solo : Solo K R} (h : prog.wp rely inv post writes world) (hrefl : rely world world)
    (hinv : inv world) {value : α} {final : Table K R}
    (ho : prog.alone conflict solo world.clock writes world.committed = .returned value final) :
    post world final value := by
  have here : ∀ locked, Interferes rely inv locked world world :=
    fun _ => ⟨hrefl, hinv, fun _ _ => rfl⟩
  induction prog generalizing writes with
  | ret result =>
      obtain ⟨rfl, rfl⟩ := Outcome.returned.inj ho
      exact h world (here _)
  | throw _ => cases ho
  | clock next ih => exact ih _ (h world (here _)) ho
  | select matching next ih => exact ih _ (h world (here _) _ (solo.order.perm _)) ho
  | write id change next ih =>
      obtain ⟨hnone, hsome⟩ := h world (here _)
      simp only [Prog.alone] at ho
      split at ho
      · rename_i hc
        exact ih _ (hnone hc) ho
      · rename_i row hc
        split at ho
        · cases ho
        · exact ih _ (hsome row hc) ho
  | insert row next ih =>
      obtain ⟨hfresh, hclash⟩ := h world (here _)
      simp only [Prog.alone] at ho
      split at ho
      · exact hclash.afterFailure hrefl hinv ho
      · have hn := solo.fresh (writes ∪ world.committed)
        simp only [AList.mem_union, not_or] at hn
        exact ih _ (hfresh _ hn.1 hn.2) ho

end Prog

-- What the caller and the table are left with: nothing is published unless the
-- transaction returned.
def World.settle (world : World K R α C) (call : C) (begunOn : Table K R) (startedAt : Nat) :
    Outcome K R ε α → World K R α C
  | .returned value writes => world.publish call begunOn startedAt writes value
  | .threw _ | .failed => world

-- One call served from its first statement to its end with no other in between.
def World.serve (svc : Service K R ε α C) (solo : Solo K R) (world : World K R α C) (call : C) :
    World K R α C :=
  world.settle call world.committed world.clock
    ((svc.body call world.clock).alone svc.conflict solo world.clock ∅ world.committed)

-- The table a transaction leaves behind.
def Outcome.table (committed : Table K R) : Outcome K R ε α → Table K R
  | .returned _ writes => writes ∪ committed
  | .threw _ | .failed => committed

theorem Outcome.mem_table {committed : Table K R} {id : K} (h : id ∈ committed)
    (outcome : Outcome K R ε α) : id ∈ outcome.table committed := by
  cases outcome with
  | returned value writes => exact AList.mem_union.mpr (.inr h)
  | threw error => exact h
  | failed => exact h

theorem serve_committed (svc : Service K R ε α C) (solo : Solo K R) (world : World K R α C) (call : C) :
    (world.serve svc solo call).committed =
      ((svc.body call world.clock).alone svc.conflict solo world.clock ∅ world.committed).table
        world.committed := by
  unfold World.serve
  cases (svc.body call world.clock).alone svc.conflict solo world.clock ∅ world.committed <;> rfl

theorem afterFailure_map_table {rename : α → β} (prog : Prog K R ε α) (now : Nat)
    (committed : Table K R) :
    ((prog.map rename).afterFailure now).table committed = (prog.afterFailure now).table committed := by
  induction prog with
  | clock next ih => exact ih now
  | ret _ | throw _ | select _ _ | write _ _ _ | insert _ _ => rfl

theorem alone_map_table {rename : α → β} (prog : Prog K R ε α) (conflict : R → R → Bool)
    (solo : Solo K R) (now : Nat) (writes committed : Table K R) :
    ((prog.map rename).alone conflict solo now writes committed).table committed =
      (prog.alone conflict solo now writes committed).table committed := by
  induction prog generalizing writes with
  | ret _ | throw _ => rfl
  | clock next ih => exact ih now writes
  | select matching next ih => exact ih _ writes
  | write id change next ih =>
      simp only [Prog.map, Prog.bind, Prog.alone]
      split
      · exact ih none writes
      · split
        · rfl
        · exact ih _ _
  | insert row next ih =>
      simp only [Prog.map, Prog.bind, Prog.alone]
      split
      · exact afterFailure_map_table _ _ _
      · exact ih _ _

section Interleaving

variable (svc : Service K R ε α C) (tid : Nat)

private def inFlight (world : World K R α C) (txn : Txn K R ε α C) : Db K R ε α C :=
  (Db.start world).resume tid txn

omit [DecidableEq K] in
private theorem lookup_inFlight (world : World K R α C) (txn : Txn K R ε α C) :
    (inFlight tid world txn).active.lookup tid = some txn := AList.lookup_insert _

omit [DecidableEq K] in
private theorem resume_inFlight (world : World K R α C) (txn next : Txn K R ε α C) :
    (inFlight tid world txn).resume tid next = inFlight tid world next := by
  simp [inFlight, Db.resume, AList.insert_insert]

omit [DecidableEq K] in
private theorem discard_inFlight (world : World K R α C) (txn : Txn K R ε α C) :
    (inFlight tid world txn).discard tid = Db.start world := by
  simp only [inFlight, Db.resume, Db.discard, Db.start, AList.insert_empty]
  congr 1
  apply AList.ext
  show List.kerase tid [(⟨tid, txn⟩ : Σ _ : Nat, Txn K R ε α C)] = []
  exact List.kerase_cons_eq rfl

private theorem waits_inFlight (world : World K R α C) (txn : Txn K R ε α C) (id : K) (row : R) :
    (inFlight tid world txn).waits svc.conflict tid id row = false := by
  simp [Db.waits, inFlight, Db.resume, Db.start, Table.rows]

private theorem step_exec_inFlight (world : World K R α C) (txn : Txn K R ε α C)
    (order : ScanOrder (K × R)) (newId : K) :
    (inFlight tid world txn).step svc (.exec tid order newId) =
      (inFlight tid world txn).execute svc tid order newId txn := by
  simp only [Db.step, lookup_inFlight]

private theorem commit_inFlight (world : World K R α C) (txn : Txn K R ε α C) {value : α}
    (hp : txn.prog = .ret value) :
    (inFlight tid world txn).step svc (.commit tid) =
      Db.start (world.publish txn.call txn.begunOn txn.startedAt txn.writes value) := by
  simp only [Db.step, lookup_inFlight, hp, discard_inFlight]
  rfl

private theorem exists_abort (solo : Solo K R) (world : World K R α C)
    (prog : Prog K R ε α) (txn : Txn K R ε α C)
    (hp : txn.prog = prog) (ha : txn.aborted = true) (hw : txn.writes = ∅) :
    ∃ events, Runs.run (Db.step svc) (inFlight tid world txn) events =
      Db.start (world.settle txn.call txn.begunOn txn.startedAt (prog.afterFailure world.clock)) := by
  induction prog generalizing txn with
  | ret value =>
      refine ⟨[.commit tid], ?_⟩
      rw [Runs.run_cons, Runs.run_nil, commit_inFlight svc tid world txn hp, hw]
      rfl
  | throw error =>
      refine ⟨[.rollback tid], ?_⟩
      simp only [Runs.run_cons, Runs.run_nil, Db.step, discard_inFlight]
      rfl
  | clock next ih =>
      obtain ⟨events, he⟩ := ih world.clock { txn with prog := next world.clock } rfl ha hw
      refine ⟨.exec tid solo.order (solo.newId ∅) :: events, ?_⟩
      rw [Runs.run_cons, step_exec_inFlight]
      simp only [Db.execute, hp, resume_inFlight]
      exact he
  | select _ _ | write _ _ _ | insert _ _ =>
      refine ⟨[.exec tid solo.order (solo.newId ∅)], ?_⟩
      rw [Runs.run_cons, step_exec_inFlight]
      simp only [Db.execute, hp, ha, ite_true, discard_inFlight]
      rfl

private theorem exists_finish (solo : Solo K R) (world : World K R α C)
    (prog : Prog K R ε α) (txn : Txn K R ε α C) (hp : txn.prog = prog) (ha : txn.aborted = false) :
    ∃ events, Runs.run (Db.step svc) (inFlight tid world txn) events =
      Db.start (world.settle txn.call txn.begunOn txn.startedAt
        (prog.alone svc.conflict solo world.clock txn.writes world.committed)) := by
  have hcommitted : ∀ other : Txn K R ε α C, (inFlight tid world other).world.committed = world.committed :=
    fun _ => rfl
  induction prog generalizing txn with
  | ret value =>
      refine ⟨[.commit tid], ?_⟩
      rw [Runs.run_cons, Runs.run_nil, commit_inFlight svc tid world txn hp]
      rfl
  | throw error =>
      refine ⟨[.rollback tid], ?_⟩
      simp only [Runs.run_cons, Runs.run_nil, Db.step, discard_inFlight]
      rfl
  | clock next ih =>
      obtain ⟨events, he⟩ := ih world.clock { txn with prog := next world.clock } rfl ha
      refine ⟨.exec tid solo.order (solo.newId ∅) :: events, ?_⟩
      rw [Runs.run_cons, step_exec_inFlight]
      simp only [Db.execute, hp, resume_inFlight]
      exact he
  | select matching next ih =>
      obtain ⟨events, he⟩ := ih _ { txn with aborted := false, prog := next (solo.order.apply
        ((txn.writes ∪ world.committed).rows.filter fun row => matching row.1 row.2)) } rfl rfl
      refine ⟨.exec tid solo.order (solo.newId ∅) :: events, ?_⟩
      rw [Runs.run_cons, step_exec_inFlight]
      simp only [Db.execute, hp, ha, Bool.false_eq_true, ite_false, resume_inFlight, hcommitted]
      exact he
  | write id change next ih =>
      cases hc : change ((txn.writes ∪ world.committed).lookup id) with
      | none =>
          obtain ⟨events, he⟩ := ih none { txn with aborted := false, prog := next none } rfl rfl
          refine ⟨.exec tid solo.order (solo.newId ∅) :: events, ?_⟩
          rw [Runs.run_cons, step_exec_inFlight]
          simp only [Db.execute, hp, ha, Bool.false_eq_true, ite_false, hcommitted, hc,
            resume_inFlight, Prog.alone]
          exact he
      | some row =>
          by_cases hclash : uniqueClash svc.conflict id row (txn.writes ∪ world.committed)
          · refine ⟨[.exec tid solo.order (solo.newId ∅)], ?_⟩
            rw [Runs.run_cons, step_exec_inFlight]
            simp only [Db.execute, hp, ha, Bool.false_eq_true, ite_false, hcommitted, hc, Db.place,
              waits_inFlight, hclash, ite_true, discard_inFlight, Prog.alone]
            rfl
          · obtain ⟨events, he⟩ := ih (some row)
              { txn with writes := txn.writes.insert id row, aborted := false, prog := next (some row) }
              rfl rfl
            refine ⟨.exec tid solo.order (solo.newId ∅) :: events, ?_⟩
            rw [Runs.run_cons, step_exec_inFlight]
            simp only [Db.execute, hp, ha, Bool.false_eq_true, ite_false, hcommitted, hc, Db.place,
              waits_inFlight, hclash, resume_inFlight, Prog.alone]
            exact he
  | insert row next ih =>
      have hn := solo.fresh (txn.writes ∪ world.committed)
      by_cases hclash : uniqueClash svc.conflict (solo.newId (txn.writes ∪ world.committed)) row
          (txn.writes ∪ world.committed)
      · obtain ⟨events, he⟩ := exists_abort svc tid solo world (next .duplicateKey)
          { txn with writes := ∅, aborted := true, prog := next .duplicateKey } rfl rfl rfl
        refine ⟨.exec tid solo.order (solo.newId (txn.writes ∪ world.committed)) :: events, ?_⟩
        rw [Runs.run_cons, step_exec_inFlight]
        simp only [Db.execute, hp, ha, Bool.false_eq_true, ite_false, hcommitted, hn, Db.place,
          waits_inFlight, hclash, ite_true, Db.abort, resume_inFlight, Prog.alone]
        exact he
      · obtain ⟨events, he⟩ := ih (.inserted (solo.newId (txn.writes ∪ world.committed)))
          { txn with
            writes := txn.writes.insert (solo.newId (txn.writes ∪ world.committed)) row
            aborted := false
            prog := next (.inserted (solo.newId (txn.writes ∪ world.committed))) } rfl rfl
        refine ⟨.exec tid solo.order (solo.newId (txn.writes ∪ world.committed)) :: events, ?_⟩
        rw [Runs.run_cons, step_exec_inFlight]
        simp only [Db.execute, hp, ha, Bool.false_eq_true, ite_false, hcommitted, hn, Db.place,
          waits_inFlight, hclash, resume_inFlight, Prog.alone]
        exact he

-- A serial execution is one of the interleavings: with nobody else in flight, the
-- transaction's statements and its commit lead to the world `serve` computes.
theorem serve_is_run (solo : Solo K R) (world : World K R α C) (call : C) :
    ∃ events, Runs.run (Db.step svc) (Db.start world) (.begin tid call :: events) =
      Db.start (world.serve svc solo call) :=
  exists_finish svc tid solo world (svc.body call world.clock)
    { call := call
      begunOn := world.committed
      startedAt := world.clock
      writes := ∅
      aborted := false
      prog := svc.body call world.clock } rfl rfl

end Interleaving

end CloudOps.ReadCommitted
