import CloudOps.Transaction

-- Code that hands a copy of part of the state from step to step, beside code that reads
-- that part anew before each step.
namespace CloudOps.Transaction

variable {σ ε α β : Type}

-- Both raise one error, or both leave one state, in which `read` finds what the first
-- hands on.
def Mirrors (read : σ → Option α) (copying : StateT σ (Except ε) α) (reading : StateT σ (Except ε) Unit)
    (before : σ) : Prop :=
  (∃ error, copying.run before = .error error ∧ reading.run before = .error error) ∨
    ∃ value after, copying.run before = .ok (value, after) ∧ reading.run before = .ok ((), after) ∧
      read after = some value

namespace Mirrors

variable {read : σ → Option α} {before : σ} {value : α}

theorem pure (h : read before = some value) :
    Mirrors read (pure value : StateT σ (Except ε) α) (pure ()) before :=
  .inr ⟨value, before, rfl, rfl, h⟩

theorem throw (error : ε) :
    Mirrors read (throw error : StateT σ (Except ε) α) (throw error : StateT σ (Except ε) Unit) before :=
  .inl ⟨error, rfl, rfl⟩

theorem bind {copying : StateT σ (Except ε) α} {reading rest : StateT σ (Except ε) Unit}
    {next : α → StateT σ (Except ε) α} (h : Mirrors read copying reading before)
    (hnext : ∀ value after, read after = some value → Mirrors read (next value) rest after) :
    Mirrors read (copying >>= next) (reading >>= fun _ => rest) before := by
  rcases h with ⟨error, hcopying, hreading⟩ | ⟨value, middle, hcopying, hreading, hread⟩
  · exact .inl ⟨error, run_bind_error hcopying, run_bind_error hreading⟩
  · unfold Mirrors
    rw [run_bind_ok hcopying, run_bind_ok hreading]
    exact hnext value middle hread

-- Where the copy is what a read finds, the code can go on from either.
theorem of_read {readNow copying : StateT σ (Except ε) α}
    {reading : α → StateT σ (Except ε) Unit} (hrun : readNow.run before = .ok (value, before))
    (h : Mirrors read copying (reading value) before) : Mirrors read copying (readNow >>= reading) before := by
  unfold Mirrors
  rw [run_bind_ok hrun]
  exact h

-- A step that hands on what it leaves to be read.
theorem of_ensures {tx : StateT σ (Except ε) α}
    (h : Ensures tx before fun value after => read after = some value) :
    Mirrors read tx (tx >>= fun _ => Pure.pure ()) before := by
  cases hrun : tx.run before with
  | error error => exact .inl ⟨error, hrun, run_bind_error hrun⟩
  | ok pair => exact .inr ⟨pair.1, pair.2, hrun, run_bind_ok hrun, h pair.1 pair.2 hrun⟩

theorem ensures {copying : StateT σ (Except ε) α} {reading : StateT σ (Except ε) Unit}
    (h : Mirrors read copying reading before) :
    Ensures copying before fun value after => read after = some value := by
  intro result final hr
  rcases h with ⟨error, hcopying, -⟩ | ⟨value, after, hcopying, -, hread⟩
  · rw [hcopying] at hr
    cases hr
  · obtain ⟨rfl, rfl⟩ := Prod.mk.inj (Except.ok.inj (hr.symm.trans hcopying))
    exact hread

-- Read once more at its end, the code that reads returns what the other does.
theorem run_eq {copying readNow : StateT σ (Except ε) α} {reading : StateT σ (Except ε) Unit}
    (h : Mirrors read copying reading before)
    (hnow : ∀ value state, read state = some value → readNow.run state = .ok (value, state)) :
    copying.run before = (reading >>= fun _ => readNow).run before := by
  rcases h with ⟨error, hcopying, hreading⟩ | ⟨value, after, hcopying, hreading, hread⟩
  · rw [hcopying, run_bind_error hreading]
  · rw [hcopying, run_bind_ok hreading, hnow value after hread]

end Mirrors

end CloudOps.Transaction
